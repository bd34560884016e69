/-
# Upper and lower case

The full case mappings of the Unicode standard over the tables of `CaseTable`. A mapping may make a
text longer (`ß` becomes `SS`), and the lower case of a capital sigma hangs on its neighbours: it is
the final sigma where a cased letter comes before it and none after it, with ignored characters
looked past on both sides.

Main statement: `upper_append` (upper case goes character by character; lower case does not).
-/
import Critique.Text.CaseTable

namespace Critique.Text

/-! ## 1. One character -/

/-- The distance to the partner of a character; the runs are in ascending order. -/
def shiftIn : List CaseRun → Nat → Option Int
  | [], _ => none
  | r :: rest, n =>
    if n < r.first then none
    else if n ≤ r.last ∧ (n - r.first) % r.step = 0 then some r.shift
    else shiftIn rest n

/-- Whether a number lies in one of the ranges, which are in ascending order. -/
def inRanges : List (Nat × Nat) → Nat → Bool
  | [], _ => false
  | (first, last) :: rest, n =>
    if n < first then false else if n ≤ last then true else inRanges rest n

/-- The case form of one character by its runs and its longer forms. -/
def caseForm (runs : List CaseRun) (special : List (Nat × List Nat)) (c : Char) : List Char :=
  match shiftIn runs c.toNat with
  | some shift => [Char.ofNat (c.toNat + shift).toNat]
  | none =>
    match special.find? (·.1 == c.toNat) with
    | some (_, form) => form.map Char.ofNat
    | none => [c]

/-- The lower-case form of a character on its own. -/
def lowerChar (c : Char) : List Char :=
  caseForm lowerRuns lowerSpecial c

/-- The upper-case form of a character. -/
def upperChar (c : Char) : List Char :=
  caseForm upperRuns upperSpecial c

/-- A letter with case. -/
def isCased (c : Char) : Bool :=
  inRanges casedRanges c.toNat

/-- A character that casing looks past. -/
def isIgnored (c : Char) : Bool :=
  inRanges ignoredRanges c.toNat

/-! ## 2. Whole texts -/

/-- Whether a letter with case comes next, past ignored characters. -/
def casedNext : List Char → Bool
  | [] => false
  | c :: t => if isIgnored c then casedNext t else isCased c

/-- Lower case of the rest of a text; `afterCased` tells whether a letter with case came last, past
ignored characters. -/
def lowerFrom (afterCased : Bool) : List Char → List Char
  | [] => []
  | c :: t =>
    let form :=
      if c = 'Σ' then (if afterCased && !casedNext t then ['ς'] else ['σ']) else lowerChar c
    form ++ lowerFrom (if isIgnored c then afterCased else isCased c) t

/-- The lower case of a text. -/
def lower (s : List Char) : List Char :=
  lowerFrom false s

/-- The upper case of a text. -/
def upper (s : List Char) : List Char :=
  s.flatMap upperChar

@[simp] theorem lower_nil : lower [] = [] := rfl

@[simp] theorem upper_nil : upper [] = [] := rfl

theorem upper_append (a b : List Char) : upper (a ++ b) = upper a ++ upper b := by
  simp [upper]

end Critique.Text
