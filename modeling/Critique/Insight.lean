/-
# Insights

Hints that are added to a report after it has been scored, and never change the score: the source
is too complex, it is not documented, or some of its lines could be faster.

Complexity is one more than the number of branches: `if`, `else if`, `while`, `for`, `switch` and
`catch` in front of a parenthesis, with any blanks in between, and the operators `&&` and `||`.
The branch words cannot overlap themselves, so every place where one begins counts.

Main statements: `complexity_pos` (no source has less than one) and `hintsFrom_append` (hints for
more lines go on where the first lines ended).
-/
import Critique.Finding
import Critique.Language
import Critique.Text.Numeral
import Critique.Text.Search
import Critique.Text.Space

namespace Critique.Insight

/-! ## 1. Complexity -/

/-- Whether a text begins with these words and a parenthesis, with any blanks after each word. -/
def beginsCall : List String → List Char → Bool
  | [], s => s.head? == some '('
  | word :: words, s =>
    Text.begins s word && beginsCall words ((s.drop word.length).dropWhile Text.isBlank)

/-- The branches that are words. -/
def branchWords : List (List String) :=
  [["if"], ["else", "if"], ["while"], ["for"], ["switch"], ["catch"]]

/-- The branches that are operators. -/
def branchOperators : List String := ["&&", "||"]

/-- The number of branches in a source. -/
def branches (source : List Char) : Nat :=
  (branchWords.map fun words => Text.countWhere (beginsCall words) source).foldr (· + ·) 0
    + (branchOperators.map fun operator => Text.count operator.toList source).foldr (· + ·) 0

/-- The complexity of a source. -/
def complexity (code : String) : Nat :=
  branches code.toList + 1

theorem complexity_pos (code : String) : 1 ≤ complexity code :=
  Nat.le_add_left _ _

/-- The highest complexity that is not remarked upon. -/
def complexityLimit : Nat := 10

/-- The remark on a source that is too complex. -/
def complexityHints (code : String) : List Finding :=
  let found := complexity code
  if complexityLimit < found then
    [⟨.optimization, .medium, 0,
      "Code complexity is high (" ++ Numeral.text found
        ++ "). Consider breaking into smaller functions.", "Code Complexity"⟩]
  else []

/-! ## 2. Documentation -/

/-- The pieces of text that a language's comments begin with. -/
def commentMarkers : Language → List String
  | .python => ["\"\"\"", "#"]
  | _ => ["/**", "//"]

/-- Whether a source has a comment; in an unknown language there are none. -/
def documented (code language : String) : Bool :=
  match Language.ofName? language with
  | some l => (commentMarkers l).any (Text.has code.toList)
  | none => false

/-- The remark on a source without comments. -/
def documentationHints (code language : String) : List Finding :=
  if documented code language then []
  else
    [⟨.suggestion, .low, 0,
      "Consider adding documentation comments to improve code maintainability.", "Documentation"⟩]

/-! ## 3. Performance -/

/-- A pattern for single lines whose hint costs nothing. -/
structure Hint where
  fires : List Char → Bool
  severity : Severity
  message : String

/-- A loop on a line that asks for a length. -/
def lengthInLoop (text : List Char) : Bool :=
  Text.has text "for" && Text.has text ".length"

/-- A query to the document. -/
def documentQuery (text : List Char) : Bool :=
  Text.has text "document." && Text.has text "querySelector"

/-- Something added to a text. -/
def textAddition (text : List Char) : Bool :=
  Text.has text "+=" && Text.has text "\""

/-- The hints of a language, in order. -/
def hintsFor (language : String) : List Hint :=
  if Language.isScript language then
    [ ⟨lengthInLoop, .low, "Consider caching array length in loop for better performance"⟩,
      ⟨documentQuery, .medium, "Consider caching DOM queries to avoid repeated lookups"⟩ ]
  else if language == Language.python.name then
    [⟨textAddition, .medium, "Consider using join() for string concatenation in loops"⟩]
  else []

/-- The hints for some lines, the first of which has the number `number`. -/
def hintsFrom (hints : List Hint) : Nat → List (List Char) → List Finding
  | _, [] => []
  | number, text :: rest =>
    ((hints.filter (·.fires text)).map fun h =>
      ⟨.optimization, h.severity, number, h.message, "Performance"⟩)
      ++ hintsFrom hints (number + 1) rest

/-- The performance hints for a source. -/
def performance (code language : String) : List Finding :=
  hintsFrom (hintsFor language) 1 (Text.splitLines code.toList)

/-- Hints for more lines go on where the first lines ended. -/
theorem hintsFrom_append (hints : List Hint) (number : Nat) (a b : List (List Char)) :
    hintsFrom hints number (a ++ b) =
      hintsFrom hints number a ++ hintsFrom hints (number + a.length) b := by
  induction a generalizing number with
  | nil => simp [hintsFrom]
  | cons text rest ih =>
    simp only [List.cons_append, hintsFrom, ih, List.append_assoc, List.length_cons]
    congr 3
    omega

/-! ## 4. All insights -/

/-- The insights into a source, in order. -/
def all (code language : String) : List Finding :=
  complexityHints code ++ documentationHints code language ++ performance code language

end Critique.Insight
