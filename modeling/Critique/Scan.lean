/-
# Scanning a source

A scan is a list of findings together with the points that they cost. The lines of a source are
scanned one by one, and on each line the rules of the catalog in order; two more checks need the
whole text and report at line 0.

Main statements: `Scan.penalty_append` (points add up) and `ofLines_append` (a scan of more lines
goes on where the first lines ended).
-/
import Critique.Catalog
import Critique.Text.Case

namespace Critique

/-! ## 1. Scans -/

/-- Findings and the points that they cost. -/
structure Scan where
  findings : List Finding
  penalty : Nat

namespace Scan

/-- Nothing found. -/
def empty : Scan := ⟨[], 0⟩

/-- Two scans after one another. -/
def append (s t : Scan) : Scan :=
  ⟨s.findings ++ t.findings, s.penalty + t.penalty⟩

@[simp] theorem findings_append (s t : Scan) :
    (s.append t).findings = s.findings ++ t.findings := rfl

@[simp] theorem penalty_append (s t : Scan) : (s.append t).penalty = s.penalty + t.penalty := rfl

theorem append_assoc (s t u : Scan) : (s.append t).append u = s.append (t.append u) := by
  simp [append, Nat.add_assoc]

@[simp] theorem empty_append (s : Scan) : empty.append s = s := by
  simp [append, empty]

/-! ## 2. Line by line -/

/-- The scan of one line, whose number is `number`. -/
def ofLine (rules : List Rule) (source : List Char) (number : Nat) (text : List Char) : Scan :=
  let hits := rules.filter fun r => r.fires ⟨text, number, source⟩
  ⟨hits.map (·.finding number), (hits.map (·.penalty)).foldr (· + ·) 0⟩

/-- The scan of some lines, the first of which has the number `number`. -/
def ofLines (rules : List Rule) (source : List Char) : Nat → List (List Char) → Scan
  | _, [] => empty
  | number, text :: rest =>
    (ofLine rules source number text).append (ofLines rules source (number + 1) rest)

/-- The scan of a source by the rules of a language. -/
def lines (code language : String) : Scan :=
  ofLines (Catalog.rulesFor language) code.toList 1 (Text.splitLines code.toList)

/-- A scan of more lines goes on where the first lines ended. -/
theorem ofLines_append (rules : List Rule) (source : List Char) (number : Nat)
    (a b : List (List Char)) :
    ofLines rules source number (a ++ b) =
      (ofLines rules source number a).append (ofLines rules source (number + a.length) b) := by
  induction a generalizing number with
  | nil => simp [ofLines]
  | cons text rest ih =>
    simp only [List.cons_append, ofLines, ih, append_assoc, List.length_cons]
    congr 3
    omega

/-! ## 3. The source as a whole -/

/-- A check of the whole source: what it reports, at line 0, and what that costs. -/
structure WholeCheck where
  fires : List Char → Bool
  finding : Finding
  penalty : Nat

/-- A source that tries something and neither catches nor excepts, in any case of letters. -/
def triesOnly (source : List Char) : Bool :=
  let lowered := Text.lower source
  Text.has lowered "try" && !Text.has lowered "catch" && !Text.has lowered "except"

/-- The number of functions that a source speaks of, in any case of letters. -/
def functionCount (source : List Char) : Nat :=
  let lowered := Text.lower source
  Text.countWhere (fun s => Text.begins s "function" || Text.begins s "def ") lowered

/-- The most lines that a source should have for each of its functions. -/
def linesPerFunction : Nat := 50

/-- A source with functions, and with too many lines for their number. -/
def hasLargeFunctions (source : List Char) : Bool :=
  let functions := functionCount source
  0 < functions && linesPerFunction * functions < (Text.splitLines source).length

/-- The checks of the whole source, in order. -/
def wholeChecks : List WholeCheck :=
  [ ⟨triesOnly, ⟨.error, .high, 0, "Error handling appears incomplete", "Error Handling"⟩, 15⟩,
    ⟨hasLargeFunctions,
      ⟨.optimization, .medium, 0,
        "Functions appear to be quite large, consider breaking them down", "Code Organization"⟩,
      10⟩ ]

/-- The scan of a source as a whole. -/
def whole (code : String) : Scan :=
  let hits := wholeChecks.filter fun check => check.fires code.toList
  ⟨hits.map (·.finding), (hits.map (·.penalty)).foldr (· + ·) 0⟩

/-- Everything that counts for the score: the lines, then the whole. -/
def all (code language : String) : Scan :=
  (lines code language).append (whole code)

end Scan

end Critique
