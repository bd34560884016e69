/-
# Records

A record is a report as it is kept: with its number, the source that it is about, the language, and
the time at which it was made. The tally is not kept; it can be counted again.

Main statement: `Record.ofReport_findings` (a record keeps the findings of its report).
-/
import Critique.Report
import Critique.Time.Stamp

namespace Critique

/-- A report as it is kept. -/
structure Record where
  id : Int
  code : String
  language : String
  score : Int
  findings : List Finding
  rewritten : Option String
  created : Time.Stamp
  deriving DecidableEq

namespace Record

/-- The record of a report that is made at a time. -/
def ofReport (id : Int) (code language : String) (report : Report) (created : Time.Stamp) :
    Record :=
  { id := id, code := code, language := language, score := report.score
    findings := report.findings, rewritten := report.rewritten, created := created }

@[simp] theorem ofReport_findings (id : Int) (code language : String) (report : Report)
    (created : Time.Stamp) :
    (ofReport id code language report created).findings = report.findings := rfl

/-- Whether the first record comes before the second where the latest come first: by the time at
which they were made, then by number. -/
def later (a b : Record) : Bool :=
  b.created.instant < a.created.instant
    || (a.created.instant == b.created.instant && decide (b.id ≤ a.id))

end Record

end Critique
