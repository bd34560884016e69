/-
# The catalog of rules

Every rule is a plain heuristic over one line: a few fixed pieces of text that must or must not be
there. Each language has its family of rules; three general rules come after the family of any
language, known or unknown, and are all that an unknown language gets.

The rules of a catalog are tried in order, and several may fire on one line.

Main statements: `rulesFor_unknown` (a language without a family has the general rules) and
`penalty_pos` (every rule costs something).
-/
import Critique.Language
import Critique.Rule
import Critique.Text.Search

namespace Critique.Catalog

open Critique.Text (has begins hasBefore)

/-! ## 1. JavaScript and TypeScript -/

/-- A declaration with `var`. -/
def usesVar (l : Line) : Bool :=
  has l.text "var "

/-- A comparison with `==` on a line without any strict or negated comparison. -/
def looseEquality (l : Line) : Bool :=
  has l.text "==" && !has l.text "===" && !has l.text "!=" && !has l.text "!=="

/-- A statement that writes to the console. -/
def consoleStatement (l : Line) : Bool :=
  has l.text "console.log" || has l.text "console.warn" || has l.text "console.error"

/-- A function without a blank before its parameters, on a line that has none with one. -/
def functionWithoutSpace (l : Line) : Bool :=
  has l.text "function(" && !has l.text "function ("

/-- A function on a line that speaks of a return exactly once. -/
def singleReturnFunction (l : Line) : Bool :=
  has l.text "function(" && has l.text "return " && Text.count "return".toList l.text == 1

/-- A block to be tried in a source that never catches. -/
def tryWithoutCatch (l : Line) : Bool :=
  has l.text "try \x7b" && !has l.source "catch"

/-- Text that is run or put into a page as it is. -/
def evalOrInnerHtml (l : Line) : Bool :=
  has l.text "eval(" || has l.text "innerHTML"

/-- The rules for JavaScript and TypeScript. -/
def scriptRules : List Rule :=
  [ ⟨"var-declaration", usesVar, .suggestion, .medium,
      "Consider using let or const instead of var for better scoping", "Modern JavaScript", 8⟩,
    ⟨"loose-equality", looseEquality, .warning, .medium,
      "Use strict equality (===) instead of loose equality (==)", "Best Practices", 10⟩,
    ⟨"console-statement", consoleStatement, .warning, .low,
      "Remove console statements in production code", "Code Quality", 3⟩,
    ⟨"function-spacing", functionWithoutSpace, .suggestion, .low,
      "Add space after function keyword for better readability", "Code Style", 2⟩,
    ⟨"arrow-function", singleReturnFunction, .optimization, .low,
      "Consider using arrow function for concise syntax", "Modern JavaScript", 3⟩,
    ⟨"try-without-catch", tryWithoutCatch, .error, .high,
      "Try block should have corresponding catch block", "Error Handling", 15⟩,
    ⟨"eval-innerhtml", evalOrInnerHtml, .error, .high,
      "Avoid eval() and innerHTML for security reasons", "Security", 20⟩ ]

/-! ## 2. Python -/

/-- An ASCII capital. -/
def isCapital (c : Char) : Bool :=
  'A' ≤ c && c ≤ 'Z'

/-- A lower-case ASCII letter. -/
def isSmall (c : Char) : Bool :=
  'a' ≤ c && c ≤ 'z'

/-- An import after the tenth line. -/
def lateImport (l : Line) : Bool :=
  begins l.trimmed "import " && 10 < l.number

/-- A definition of a name with a capital in front. -/
def capitalizedFunction (l : Line) : Bool :=
  begins l.trimmed "def " && hasBefore "def " isCapital l.trimmed

/-- A handler for every exception. -/
def bareExcept (l : Line) : Bool :=
  has l.trimmed "except:" && !has l.trimmed "except Exception:"

/-- A sum in something printed. -/
def printConcatenation (l : Line) : Bool :=
  has l.text "print(" && has l.text "+"

/-- An entry looked up by a quoted key, with nothing assigned and no condition. -/
def unsafeAccess (l : Line) : Bool :=
  has l.text "['" && has l.text "']" && !has l.text "=" && !has l.text "if "

/-- The time of day in a source that does not import it. -/
def datetimeWithoutImport (l : Line) : Bool :=
  has l.text "datetime.now()" && !has l.source "import datetime" && !has l.source "from datetime"

/-- Something removed on the line of a loop. -/
def mutationInLoop (l : Line) : Bool :=
  has l.text "for " && has l.text " in "
    && (has l.text "del " || has l.text ".pop(" || has l.text ".remove(")

/-- Something appended on the line of a loop, in a source that starts an empty list of results. -/
def appendLoop (l : Line) : Bool :=
  has l.text "for " && has l.text "append(" && has l.source "results = []"

/-- The rules for Python. -/
def pythonRules : List Rule :=
  [ ⟨"late-import", lateImport, .suggestion, .medium,
      "Imports should be at the top of the file (PEP 8)", "PEP 8 Style", 8⟩,
    ⟨"function-naming", capitalizedFunction, .warning, .medium,
      "Function names should be lowercase with underscores (snake_case)", "PEP 8 Style", 8⟩,
    ⟨"bare-except", bareExcept, .warning, .high,
      "Avoid bare except clauses, specify exception type", "Error Handling", 12⟩,
    ⟨"print-concatenation", printConcatenation, .suggestion, .low,
      "Consider using f-strings or .format() for string formatting", "Modern Python", 3⟩,
    ⟨"dict-access", unsafeAccess, .suggestion, .low,
      "Consider using .get() method for safer dictionary access", "Best Practices", 3⟩,
    ⟨"datetime-import", datetimeWithoutImport, .error, .high,
      "Missing import for datetime module", "Import Error", 20⟩,
    ⟨"mutation-in-loop", mutationInLoop, .warning, .medium,
      "Modifying dictionary/list structure during iteration can cause issues", "Data Safety", 10⟩,
    ⟨"list-comprehension", appendLoop, .optimization, .low,
      "Consider using list comprehension for better performance", "Performance", 5⟩ ]

/-! ## 3. Java -/

/-- A class whose name begins with a small letter. -/
def smallClass (l : Line) : Bool :=
  begins l.trimmed "class " && hasBefore "class " isSmall l.trimmed

/-- A public member with a capital in front, on a line that speaks of no class. -/
def capitalizedMember (l : Line) : Bool :=
  has l.trimmed "public " && hasBefore "public " isCapital l.trimmed && !has l.trimmed "class"

/-- The rules for Java. -/
def javaRules : List Rule :=
  [ ⟨"class-naming", smallClass, .warning, .medium,
      "Class names should start with uppercase (PascalCase)", "Java Conventions", 8⟩,
    ⟨"method-naming", capitalizedMember, .warning, .medium,
      "Method names should start with lowercase (camelCase)", "Java Conventions", 8⟩ ]

/-! ## 4. All languages -/

/-- The most characters that a line should have. -/
def lineLimit : Nat := 120

/-- A line beyond the limit. -/
def longLine (l : Line) : Bool :=
  lineLimit < l.text.length

/-- An ASCII digit. -/
def isDigit (c : Char) : Bool :=
  '0' ≤ c && c ≤ '9'

/-- An ASCII letter or digit, or an underscore. -/
def isWord (c : Char) : Bool :=
  isDigit c || isCapital c || isSmall c || c == '_'

/-- The first run of two or more digits that no other word character touches; `glued` tells whether
a word character stands right before the text. -/
def firstNumber? (glued : Bool) : List Char → Option (List Char)
  | [] => none
  | c :: t =>
    let run := (c :: t).takeWhile isDigit
    let free := !((c :: t).drop run.length).head?.any isWord
    if !glued && 2 ≤ run.length && free then some run else firstNumber? (isWord c) t

/-- Round numbers that need no name. -/
def plainNumbers : List String := ["10", "100", "1000"]

/-- A number that is not plain, on a line without comments, ranges and prints. Only the first
number of the line counts. -/
def magicNumber (l : Line) : Bool :=
  match firstNumber? false l.text with
  | none => false
  | some number =>
    !(has l.text "//" || has l.text "#" || has l.text "range(" || has l.text "print(")
      && !(plainNumbers.map String.toList).contains number

/-- A note about work left to do. -/
def todoMarker (l : Line) : Bool :=
  has l.text "TODO" || has l.text "FIXME"

/-- The rules for all languages. -/
def generalRules : List Rule :=
  [ ⟨"line-length", longLine, .suggestion, .low,
      "Line exceeds 120 characters, consider breaking it up", "Code Style", 2⟩,
    ⟨"magic-number", magicNumber, .suggestion, .medium,
      "Consider extracting magic numbers into named constants", "Maintainability", 5⟩,
    ⟨"todo-comment", todoMarker, .warning, .low,
      "TODO/FIXME comment found - consider addressing", "Code Quality", 3⟩ ]

/-! ## 5. The catalog -/

/-- The rules that are a language's own. -/
def family : Language → List Rule
  | .javascript => scriptRules
  | .typescript => scriptRules
  | .python => pythonRules
  | .java => javaRules

/-- The rules for a language by its exact name: its family, then the general rules. -/
def rulesFor (language : String) : List Rule :=
  ((Language.ofName? language).map family).getD [] ++ generalRules

theorem rulesFor_unknown {language : String} (h : Language.ofName? language = none) :
    rulesFor language = generalRules := by
  simp [rulesFor, h]

theorem rulesFor_name (l : Language) : rulesFor l.name = family l ++ generalRules := by
  simp [rulesFor, Language.ofName?_name]

/-- **Every rule costs something.** -/
theorem penalty_pos {language : String} {r : Rule} (h : r ∈ rulesFor language) : 0 < r.penalty := by
  have families : ∀ l : Language, ∀ r ∈ family l, 0 < r.penalty := by
    intro l r hr
    cases l <;> simp only [family, scriptRules, pythonRules, javaRules, List.mem_cons,
      List.not_mem_nil, or_false] at hr <;>
      rcases hr with rfl | rfl | rfl | rfl | rfl | rfl | rfl | rfl <;> decide
  have general : ∀ r ∈ generalRules, 0 < r.penalty := by
    intro r hr
    simp only [generalRules, List.mem_cons, List.not_mem_nil, or_false] at hr
    rcases hr with rfl | rfl | rfl <;> decide
  simp only [rulesFor, List.mem_append] at h
  rcases h with h | h
  · cases hl : Language.ofName? language with
    | none => simp [hl] at h
    | some l =>
      rw [hl] at h
      exact families l r h
  · exact general r h

end Critique.Catalog
