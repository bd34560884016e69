/-
# Reports

The report on a source: a score, the grouped findings, a rewrite where one is offered, and the tally
of the findings. The score starts at 85, loses the points of the scan and stops at 0. Insights come
in afterwards; they count neither for the score nor for the decision to offer a rewrite, which is
made for JavaScript and TypeScript as soon as the scan has found anything.

Main statements: `score_le` (no score is above the baseline), `tally_analyze` (the tally is that of
the findings shown).
-/
import Critique.Grouping
import Critique.Insight
import Critique.Rewrite
import Critique.Scan

namespace Critique

/-- What is said about a source. -/
structure Report where
  score : Int
  findings : List Finding
  rewritten : Option String
  tally : Tally
  deriving DecidableEq

namespace Report

/-- The score that a source starts from. -/
def baseline : Nat := 85

/-- Whether a rewrite is offered: for the two script languages, if anything was found. -/
def offersRewrite (language : String) (findings : List Finding) : Bool :=
  Language.isScript language && !findings.isEmpty

/-- The report on a source in a language that is named in lower case. -/
def ofSource (code language : String) : Report :=
  let scan := Scan.all code language
  let findings := Grouping.shown (scan.findings ++ Insight.all code language)
  { score := (baseline - scan.penalty : Nat)
    findings := findings
    rewritten := if offersRewrite language scan.findings then some (Rewrite.rewrite code) else none
    tally := .ofFindings findings }

/-- The report on a source; the language may be named in any case. -/
def analyze (code language : String) : Report :=
  ofSource code (String.ofList (Text.lower language.toList))

/-- No score is above the baseline, and none is below zero. -/
theorem score_le (code language : String) :
    0 ≤ (analyze code language).score ∧ (analyze code language).score ≤ baseline := by
  simp only [analyze, ofSource, baseline]
  omega

theorem tally_analyze (code language : String) :
    (analyze code language).tally = .ofFindings (analyze code language).findings := rfl

end Report

end Critique
