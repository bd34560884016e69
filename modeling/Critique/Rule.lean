/-
# Rules

A rule looks at one line and knows the number of the line and the whole source. Where it fires it
yields one finding, and the source loses the points of its penalty.

Main statement: `evaluate_eq_ok_none_iff` (a rule that does not fire yields nothing, and only such a
rule does).
-/
import Critique.Finding
import Critique.Schema
import Critique.Text.Space

namespace Critique

/-- What a rule may look at: a line, its number, and the source that it stands in. -/
structure Line where
  text : List Char
  number : Int
  source : List Char

/-- The line without the blanks at its ends. -/
def Line.trimmed (l : Line) : List Char :=
  Text.strip l.text

/-- A pattern for single lines and the finding that it yields. -/
structure Rule where
  name : String
  fires : Line → Bool
  kind : Kind
  severity : Severity
  message : String
  category : String
  penalty : Nat

namespace Rule

/-- The finding of a rule on the line of the given number. -/
def finding (r : Rule) (number : Nat) : Finding :=
  { kind := r.kind, severity := r.severity, line := number, message := r.message,
    category := r.category }

/-- The finding of a rule on a line, if it fires. A finding cannot stand on a negative line. -/
def evaluate (r : Rule) (l : Line) : Checked (Option Finding) :=
  if r.fires l then
    match l.number with
    | .ofNat n => .ok (some (r.finding n))
    | .negSucc _ => .error [⟨[.name "line"], .negative⟩]
  else .ok none

theorem evaluate_eq_ok_none_iff {r : Rule} {l : Line} :
    r.evaluate l = .ok none ↔ r.fires l = false := by
  unfold evaluate
  cases h : r.fires l with
  | false => simp
  | true => cases l.number <;> simp

/-- A rule as a catalog lists it. -/
def describe (r : Rule) : String :=
  "Rule('" ++ r.name ++ "', penalty=" ++ Numeral.text r.penalty ++ ")"

end Rule

end Critique
