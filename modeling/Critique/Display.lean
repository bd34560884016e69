/-
# What a reader sees of a finding

Findings come to the page as JSON of any shape. Each is shown in one line: a mark for its kind, its
category, where it is, how severe it is and what it says. A finding without a positive line is shown
as general.

Beside it stand the short texts of the page: how long a source is, where a record is shared, and
what an export is called.

Main statement: `location_int` (where a finding with a whole line number is).
-/
import Critique.Finding
import Critique.Json.Access
import Critique.Text.Search
import Critique.Text.Space

namespace Critique.Display

open Json (AccessError)

/-! ## 1. Findings -/

/-- The mark of a kind. -/
def mark : Kind → String
  | .error => "🔴"
  | .warning => "🟠"
  | .suggestion => "🔵"
  | .optimization => "🟢"

/-- The mark of a kind that is none. -/
def plainMark : String := "⚪"

/-- The mark of the value that stands for a kind. -/
def markOf (value : Json) : Except AccessError String := do
  match ← Json.hashed value with
  | .text name => return ((Kind.ofName? name).map mark).getD plainMark
  | _ => return plainMark

/-- A line number as a place. -/
def place (line : Int) : String :=
  if 0 < line then "Line " ++ Numeral.text line else "General"

/-- The line number that a value stands for; what does not count as true stands for zero. -/
def lineOf (value : Json) : Except AccessError Int :=
  if value.truthy then value.integer else .ok 0

/-- Where a finding is. -/
def location (finding : Json) : Except AccessError String := do
  return place (← lineOf (← finding.getD "line" (.int 0)))

/-- A finding in one line. -/
def findingLine (finding : Json) : Except AccessError String := do
  let mark ← markOf (← finding.getD "type" (.text ""))
  let category ← finding.getD "category" (.text "")
  let location ← location finding
  let severity ← finding.getD "severity" (.text "")
  let message ← finding.getD "message" (.text "")
  return mark ++ " **" ++ category.display ++ "** · " ++ location ++ " · _" ++ severity.display
    ++ "_: " ++ message.display

theorem location_int {members : List (Json.Key × Json)} {line : Int}
    (h : Entries.find? (.text "line") members = some (.int line)) :
    location (.object members) = .ok (place line) := by
  have number : lineOf (.int line) = .ok line := by
    by_cases zero : line = 0 <;> simp [lineOf, Json.truthy, Json.integer, zero]
  unfold location
  rw [Json.getD_of_find? h]
  show (do return place (← lineOf (.int line))) = Except.ok (place line)
  rw [number]
  rfl

/-! ## 2. Short texts -/

/-- How many lines and characters a source has. -/
def extent (code : String) : String :=
  Numeral.text (Text.splitLines code.toList).length ++ " lines • " ++ Numeral.text code.length
    ++ " characters"

/-- Where a record is shared. -/
def shareLink (base : String) (id : Json) : String :=
  String.ofList (Text.stripEnd (· == '/') base.toList) ++ "/analysis/" ++ id.display

/-- A point in time in seconds since 1970: a whole number, or a double. -/
inductive Seconds where
  | whole (n : Int)
  | measured (x : Float)

/-- The milliseconds of a point in time; what is measured is multiplied as a double and then cut
off. -/
def Seconds.milliseconds : Seconds → Except AccessError Int
  | .whole n => .ok (n * 1000)
  | .measured x => Json.integer (.real (x * 1000))

/-- What an export is called. -/
def exportName (now : Seconds) : Except AccessError String := do
  let count ← (Numeral.writtenWithin (← now.milliseconds)).mapError AccessError.numeral
  return "code-analysis-" ++ count ++ ".json"

end Critique.Display
