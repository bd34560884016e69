/-
# Reports and records as JSON

How each kind of data is written, and how it is checked when it comes in. Names of two words are
written in camel case; on the way in the same name with underscores is known as well. Unknown
members are ignored.

Lists of findings, rewrites and tallies may be left out. A report without a rewrite is written
without the member, a record with a null.

Main statements: `checkKind_toJson`, `checkFinding_toJson` and `checkTally_toJson` (what is written
is taken back).
-/
import Critique.Record
import Critique.Schema

namespace Critique

/-! ## 1. Findings -/

/-- A finding as JSON. -/
def Finding.toJson (f : Finding) : Json :=
  .object [("type", .text f.kind.name), ("severity", .text f.severity.name),
    ("line", .int f.line), ("message", .text f.message), ("category", .text f.category)]

/-- A kind by its name. -/
def checkKind : Json → Checked Kind :=
  checkChoice (Kind.all.map Kind.name) Kind.ofName?

/-- A severity by its name. -/
def checkSeverity : Json → Checked Severity :=
  checkChoice (Severity.all.map Severity.name) Severity.ofName?

/-- A finding. -/
def checkFinding : Json → Checked Finding :=
  checkObject "AnalysisIssue" fun members =>
    (Checked.of Finding.mk)
      |>.ap (field ["type"] checkKind members)
      |>.ap (field ["severity"] checkSeverity members)
      |>.ap (field ["line"] checkNatural members)
      |>.ap (field ["message"] checkText members)
      |>.ap (field ["category"] checkText members)

theorem checkKind_toJson (k : Kind) : checkKind (.text k.name) = .ok k := by
  simp [checkKind, checkChoice, Kind.ofName?_name]

theorem checkSeverity_toJson (s : Severity) : checkSeverity (.text s.name) = .ok s := by
  simp [checkSeverity, checkChoice, Severity.ofName?_name]

/-- **A finding that is written is taken back.** -/
theorem checkFinding_toJson (f : Finding) : checkFinding f.toJson = .ok f := by
  cases f
  simp [checkFinding, checkObject, Finding.toJson, field, findMember, Entries.find?,
    checkKind_toJson, checkSeverity_toJson, checkNatural, checkInteger, checkText, Checked.under,
    Checked.of, Checked.ap]

/-! ## 2. Tallies -/

/-- A tally as JSON. -/
def Tally.toJson (t : Tally) : Json :=
  .object [("totalIssues", .int t.total), ("errorCount", .int t.errors),
    ("warningCount", .int t.warnings), ("suggestionCount", .int t.suggestions),
    ("optimizationCount", .int t.optimizations)]

/-- A tally; every count may be left out and is then zero. -/
def checkTally : Json → Checked Tally :=
  checkObject "AnalysisSummary" fun members =>
    let count := fun names => optionalField names (0 : Int) checkInteger members
    (Checked.of Tally.mk)
      |>.ap (count ["totalIssues", "total_issues"])
      |>.ap (count ["errorCount", "error_count"])
      |>.ap (count ["warningCount", "warning_count"])
      |>.ap (count ["suggestionCount", "suggestion_count"])
      |>.ap (count ["optimizationCount", "optimization_count"])

theorem checkTally_toJson (t : Tally) : checkTally t.toJson = .ok t := rfl

/-! ## 3. Reports -/

/-- The members of a report; a rewrite that is not offered has none. -/
def Report.members (r : Report) : List (Json.Key × Json) :=
  let offered := r.rewritten.map fun code => (Json.Key.text "optimizedCode", Json.text code)
  let tally : Json.Key × Json := ("summary", r.tally.toJson)
  ("qualityScore", .int r.score) :: ("issues", .list (r.findings.map Finding.toJson))
    :: (offered.toList ++ [tally])

/-- A report as JSON. -/
def Report.toJson (r : Report) : Json :=
  .object r.members

/-- A report. -/
def checkReport : Json → Checked Report :=
  checkObject "AnalysisResult" fun members =>
    (Checked.of Report.mk)
      |>.ap (field ["qualityScore", "quality_score"] checkInteger members)
      |>.ap (optionalField ["issues"] [] (checkList checkFinding) members)
      |>.ap (optionalField ["optimizedCode", "optimized_code"] none checkOptionalText members)
      |>.ap (optionalField ["summary"] Tally.zero checkTally members)

/-! ## 4. Records -/

/-- A record as JSON. -/
def Record.toJson (r : Record) : Json :=
  .object [("id", .int r.id), ("code", .text r.code), ("language", .text r.language),
    ("qualityScore", .int r.score), ("issues", .list (r.findings.map Finding.toJson)),
    ("optimizedCode", .ofText? r.rewritten), ("createdAt", .text r.created.render)]

/-- A record. -/
def checkRecord : Json → Checked Record :=
  checkObject "CodeAnalysis" fun members =>
    (Checked.of Record.mk)
      |>.ap (field ["id"] checkInteger members)
      |>.ap (field ["code"] checkText members)
      |>.ap (field ["language"] checkText members)
      |>.ap (field ["qualityScore", "quality_score"] checkInteger members)
      |>.ap (optionalField ["issues"] [] (checkList checkFinding) members)
      |>.ap (optionalField ["optimizedCode", "optimized_code"] none checkOptionalText members)
      |>.ap (field ["createdAt", "created_at"] checkStamp members)

/-! ## 5. Submissions -/

/-- A source that is handed in for a report. -/
structure Submission where
  code : String
  language : Language
  deriving DecidableEq

/-- A submission as JSON. -/
def Submission.toJson (s : Submission) : Json :=
  .object [("code", .text s.code), ("language", .text s.language.name)]

/-- The names of the languages in the order in which a fault lists them. -/
def languageNames : List String :=
  Language.all.map Language.name

/-- A submission: a source of at least one character in a known language. -/
def checkSubmission : Json → Checked Submission :=
  checkObject "AnalyzeRequest" fun members =>
    (Checked.of Submission.mk)
      |>.ap (field ["code"] checkNonempty members)
      |>.ap (field ["language"] (checkChoice languageNames Language.ofName?) members)

end Critique
