/-
# Writing JSON

Two forms of the same values. The compact form has no blanks and leaves characters as they are but
for quotes, backslashes and control characters. The indented form puts every item on a line of its
own, two blanks deeper than what holds it, and writes everything beyond `U+007E` as escapes, with a
surrogate pair for what lies beyond `U+FFFF`.

`display` is the plain form of a value inside a message: texts as they are, `None`, `True` and
`False` for the words, and quoted texts inside lists and objects. A broken text that stands alone
cannot be shown as it is, for it is no `String`; it is shown with a replacement for each lone half.

Main statement: `escape_eq_self` (a character that needs no escape is written as it is).
-/
import Critique.Json.Value
import Critique.Number.Shortest

namespace Critique.Json

/-! ## 1. Texts -/

/-- A code unit of four hexadecimal digits. -/
def unitEscape (n : Nat) : List Char :=
  '\\' :: 'u' :: Text.hex 4 n

/-- The escape of a code point: one unit, or the two halves of a surrogate pair. -/
def pointEscape (n : Nat) : List Char :=
  if n < 0x10000 then unitEscape n
  else unitEscape (0xD800 + (n - 0x10000) / 0x400) ++ unitEscape (0xDC00 + (n - 0x10000) % 0x400)

/-- One code point inside a text; `ascii` asks for escapes beyond `U+007E`. -/
def escape (ascii : Bool) (n : Nat) : List Char :=
  if n = 0x22 then ['\\', '\x22']
  else if n = 0x5C then ['\\', '\\']
  else if n = 0x08 then ['\\', 'b']
  else if n = 0x0C then ['\\', 'f']
  else if n = 0x0A then ['\\', 'n']
  else if n = 0x0D then ['\\', 'r']
  else if n = 0x09 then ['\\', 't']
  else if n < 0x20 then unitEscape n
  else if (ascii ∧ 0x7E < n) ∨ (0xD800 ≤ n ∧ n < 0xE000) then pointEscape n
  else [Char.ofNat n]

/-- The code points of a text between quotes. -/
def writeCodePoints (ascii : Bool) (codePoints : List Nat) : List Char :=
  '\x22' :: codePoints.flatMap (escape ascii) ++ ['\x22']

/-- A text between quotes. -/
def writeText (ascii : Bool) (s : String) : List Char :=
  writeCodePoints ascii (s.toList.map Char.toNat)

/-- The name of a member between quotes. -/
def writeKey (ascii : Bool) (key : Key) : List Char :=
  writeCodePoints ascii key.codePoints

theorem escape_eq_self {c : Char} (lower : 0x20 ≤ c.toNat) (upper : c.toNat ≤ 0x7E)
    (quote : c.toNat ≠ 0x22) (backslash : c.toNat ≠ 0x5C) (ascii : Bool) :
    escape ascii c.toNat = [c] := by
  unfold escape
  rw [if_neg quote, if_neg backslash, if_neg (by omega), if_neg (by omega), if_neg (by omega),
    if_neg (by omega), if_neg (by omega), if_neg (by omega), if_neg (by omega),
    Char.ofNat_toNat]

/-! ## 2. The compact form -/

/-- How JSON spells the doubles that are no numbers. -/
def spelling : Number.Spelling := ⟨"NaN", "Infinity"⟩

/-- A value that holds no other. -/
def writePlain (ascii : Bool) : Json → List Char
  | .null => "null".toList
  | .bool true => "true".toList
  | .bool false => "false".toList
  | .int n => Numeral.render n
  | .real x => Number.floatText spelling x
  | .text s => writeText ascii s
  | .broken codePoints => writeCodePoints ascii codePoints
  | .list _ => "[]".toList
  | .object _ => "\x7b\x7d".toList

mutual

/-- The compact form of a value. -/
def compact : Json → List Char
  | .list items => '[' :: compactItems items ++ [']']
  | .object members => '\x7b' :: compactMembers members ++ ['\x7d']
  | plain => writePlain false plain
termination_by structural value => value

/-- Values with commas between them. -/
def compactItems : List Json → List Char
  | [] => []
  | [item] => compact item
  | item :: rest => compact item ++ ',' :: compactItems rest
termination_by structural items => items

/-- Members with commas between them. -/
def compactMembers : List (Key × Json) → List Char
  | [] => []
  | [(key, value)] => writeKey false key ++ ':' :: compact value
  | (key, value) :: rest =>
    writeKey false key ++ ':' :: compact value ++ ',' :: compactMembers rest
termination_by structural members => members

end

/-- The compact form of a value, as a string. -/
def render (value : Json) : String :=
  String.ofList (compact value)

/-! ## 3. The indented form -/

/-- A new line at the given depth. -/
def newLine (depth : Nat) : List Char :=
  '\n' :: List.replicate (2 * depth) ' '

mutual

/-- The indented form of a value that stands at the given depth. -/
def indented (depth : Nat) : Json → List Char
  | .list [] => "[]".toList
  | .list (item :: rest) =>
    '[' :: newLine (depth + 1) ++ indented (depth + 1) item ++ indentedItems (depth + 1) rest
      ++ newLine depth ++ [']']
  | .object [] => "\x7b\x7d".toList
  | .object ((key, value) :: rest) =>
    '\x7b' :: newLine (depth + 1) ++ writeKey true key ++ ':' :: ' ' :: indented (depth + 1) value
      ++ indentedMembers (depth + 1) rest ++ newLine depth ++ ['\x7d']
  | plain => writePlain true plain
termination_by structural value => value

/-- The items after the first, each behind a comma and on its own line. -/
def indentedItems (depth : Nat) : List Json → List Char
  | [] => []
  | item :: rest => ',' :: newLine depth ++ indented depth item ++ indentedItems depth rest
termination_by structural items => items

/-- The members after the first, each behind a comma and on its own line. -/
def indentedMembers (depth : Nat) : List (Key × Json) → List Char
  | [] => []
  | (key, value) :: rest =>
    ',' :: newLine depth ++ writeKey true key ++ ':' :: ' ' :: indented depth value
      ++ indentedMembers depth rest
termination_by structural members => members

end

/-- The indented form of a value, as a string. -/
def renderIndented (value : Json) : String :=
  String.ofList (indented 0 value)

/-! ## 4. The form in messages -/

/-- How messages spell the doubles that are no numbers. -/
def plainSpelling : Number.Spelling := ⟨"nan", "inf"⟩

/-- The characters of a broken text outside of quotes, with the replacement character for each lone
half. -/
def mended (codePoints : List Nat) : List Char :=
  codePoints.map fun n => if 0xD800 ≤ n ∧ n < 0xE000 then '\uFFFD' else Char.ofNat n

mutual

/-- A value as it is shown inside a list or an object. -/
def shown : Json → List Char
  | .null => "None".toList
  | .bool true => "True".toList
  | .bool false => "False".toList
  | .int n => Numeral.render n
  | .real x => Number.floatText plainSpelling x
  | .text s => Text.quoted s.toList
  | .broken codePoints => Text.quotedPoints codePoints
  | .list items => '[' :: shownItems items ++ [']']
  | .object members => '\x7b' :: shownMembers members ++ ['\x7d']
termination_by structural value => value

/-- Values with a comma and a blank between them. -/
def shownItems : List Json → List Char
  | [] => []
  | [item] => shown item
  | item :: rest => shown item ++ ',' :: ' ' :: shownItems rest
termination_by structural items => items

/-- Members with a comma and a blank between them. -/
def shownMembers : List (Key × Json) → List Char
  | [] => []
  | [(key, value)] => Text.quotedPoints key.codePoints ++ ':' :: ' ' :: shown value
  | (key, value) :: rest =>
    Text.quotedPoints key.codePoints ++ ':' :: ' ' :: shown value ++ ',' :: ' ' :: shownMembers rest
termination_by structural members => members

end

/-- A value as a message shows it: a text as it is, everything else as inside a list. -/
def display : Json → String
  | .text s => s
  | .broken codePoints => String.ofList (mended codePoints)
  | value => String.ofList (shown value)

end Critique.Json
