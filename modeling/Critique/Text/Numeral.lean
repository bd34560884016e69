/-
# Decimal numerals

A numeral is white space, one sign or none, decimal digits of any script with single underscores
between them, and white space. Numerals of more than `digitLimit` digits are refused, whatever they
are worth.

* `renderNat` and `render` write a number, and `writtenWithin` refuses to write a long one;
* `read` reads a whole text as a numeral;
* `leading` reads the integer that a text begins with and ignores what follows it;
* `spellsReal` tells whether a whole text is a number with a fraction and an exponent, or without.

Main statements: `worth_digits` (the digits of a number are worth that number) and
`digits_ne_nil` (no number is written with nothing).
-/
import Critique.Text.Digit
import Critique.Text.Quoted
import Critique.Text.Space

namespace Critique.Numeral

/-! ## 1. Writing -/

/-- The decimal digits of a number, most significant first. -/
def digits (n : Nat) : List Nat :=
  if n < 10 then [n] else digits (n / 10) ++ [n % 10]

/-- What digits are worth, most significant first. -/
def worth (ds : List Nat) : Nat :=
  ds.foldl (fun value d => 10 * value + d) 0

/-- The character of a digit below ten. -/
def digitChar (d : Nat) : Char :=
  Char.ofNat (0x30 + d)

/-- A natural number in decimal. -/
def renderNat (n : Nat) : List Char :=
  (digits n).map digitChar

/-- An integer in decimal; only negative ones carry a sign. -/
def render : Int → List Char
  | .ofNat n => renderNat n
  | .negSucc n => '-' :: renderNat (n + 1)

/-- An integer in decimal, as a string. -/
def text (n : Int) : String :=
  String.ofList (render n)

/-- A natural number in decimal with zeros in front, up to the given width. -/
def padded (width n : Nat) : List Char :=
  let ds := renderNat n
  List.replicate (width - ds.length) '0' ++ ds

theorem worth_append (ds : List Nat) (d : Nat) : worth (ds ++ [d]) = 10 * worth ds + d := by
  simp [worth]

/-- **The digits of a number are worth that number.** -/
theorem worth_digits (n : Nat) : worth (digits n) = n := by
  induction n using digits.induct with
  | case1 n h => rw [digits, if_pos h]; simp [worth]
  | case2 n h ih => rw [digits, if_neg h, worth_append, ih]; omega

theorem digits_ne_nil (n : Nat) : digits n ≠ [] := by
  unfold digits
  split <;> simp

/-! ## 2. Causes of refusal -/

/-- The most digits that a numeral may have. -/
def digitLimit : Nat := 4300

/-- Why a text, given by its code points, is no numeral, or a number has none. -/
inductive Flaw where
  | malformed (codePoints : List Nat)
  | tooLong (digits : Nat)
  | unwritable
  deriving DecidableEq

/-- The wording of a refusal; a malformed text is shown in quotes, cut at 200 characters. -/
def Flaw.message : Flaw → String
  | .malformed codePoints =>
    "invalid literal for int() with base 10: "
      ++ String.ofList ((Text.quotedPoints codePoints).take 200)
  | .tooLong digits =>
    "Exceeds the limit (4300 digits) for integer string conversion: value has "
      ++ Numeral.text digits
      ++ " digits; use sys.set_int_max_str_digits() to increase the limit"
  | .unwritable =>
    "Exceeds the limit (4300 digits) for integer string conversion; "
      ++ "use sys.set_int_max_str_digits() to increase the limit"

/-- The numeral of a number, if it has no more digits than a numeral may have. -/
def writtenWithin (n : Int) : Except Flaw String :=
  if digitLimit < (digits n.natAbs).length then .error .unwritable else .ok (text n)

theorem writtenWithin_of_le {n : Int} (h : (digits n.natAbs).length ≤ digitLimit) :
    writtenWithin n = .ok (text n) :=
  if_neg (Nat.not_lt.2 h)

/-! ## 3. Reading -/

/-- Takes one sign off a text and tells whether it was a minus. -/
def takeSign : List Char → Bool × List Char
  | '+' :: t => (false, t)
  | '-' :: t => (true, t)
  | s => (false, s)

/-- The number of the given sign and digits. -/
def signed (negative : Bool) (ds : List Nat) : Int :=
  if negative then -(worth ds : Int) else worth ds

/-- The longest run of digits with single underscores between them, and what follows it; nothing if
an underscore does not stand between two digits. -/
def digitRun (digit? : Char → Option Nat) : List Char → Option (List Nat × List Char)
  | [] => some ([], [])
  | ['_'] => none
  | '_' :: c :: t => if (digit? c).isSome then digitRun digit? (c :: t) else none
  | c :: t =>
    match digit? c with
    | some d => (digitRun digit? t).map fun (ds, rest) => (d :: ds, rest)
    | none => some ([], c :: t)

/-- The longest run of digits with nothing between them, and what follows it. -/
def plainRun (digit? : Char → Option Nat) : List Char → List Nat × List Char
  | [] => ([], [])
  | c :: t =>
    match digit? c with
    | some d => let (ds, rest) := plainRun digit? t; (d :: ds, rest)
    | none => ([], c :: t)

/-- Refuses digits beyond the limit. -/
def withinLimit (negative : Bool) (ds : List Nat) : Except Flaw Int :=
  if digitLimit < ds.length then .error (.tooLong ds.length) else .ok (signed negative ds)

/-- Reads a whole text as a numeral. Digits beyond the limit are refused before anything that
follows them is looked at. -/
def read (text : String) : Except Flaw Int :=
  let malformed := Except.error (.malformed (text.toList.map Char.toNat))
  let (negative, body) := takeSign (text.toList.dropWhile Text.isSpace)
  match body with
  | '_' :: _ => malformed
  | _ =>
    match digitRun Text.digitValue? body with
    | none => malformed
    | some ([], _) => malformed
    | some (ds, rest) =>
      match withinLimit negative ds with
      | .error flaw => .error flaw
      | .ok n => if rest.all Text.isSpace then .ok n else malformed

/-- Reads the integer at the start of a text: blanks, one sign or none, and the longest run of
digits. A text that begins with no integer has none; what follows the integer is ignored. -/
def leading (text : String) : Except Flaw (Option Int) :=
  let (negative, body) := takeSign (text.toList.dropWhile Text.isBlank)
  match (plainRun Text.digitValue? body).1 with
  | [] => .ok none
  | ds => (withinLimit negative ds).map some

/-! ## 4. Real numbers -/

/-- What follows a run of digits, if there is one and it has a digit at its start. -/
def afterDigits? (s : List Char) : Option (List Char) :=
  match s with
  | c :: _ =>
    if (Text.digitValue? c).isSome then (digitRun Text.digitValue? s).map Prod.snd else none
  | [] => none

/-- Whether a text is nothing, or an exponent: `e`, perhaps a sign, and digits. -/
def isExponent : List Char → Bool
  | [] => true
  | c :: t => (c == 'e' || c == 'E') && afterDigits? (takeSign t).2 == some []

/-- Whether a text without a sign is a decimal number: digits, a point or none, digits, and perhaps
an exponent, with digits on one side of the point at least. -/
def isDecimal (s : List Char) : Bool :=
  match s, afterDigits? s with
  | '.' :: t, none => (afterDigits? t).any isExponent
  | _, some ('.' :: t) => isExponent ((afterDigits? t).getD t)
  | _, some t => isExponent t
  | _, none => false

/-- The words that are real numbers too. -/
def realWords : List (List Char) :=
  ["inf".toList, "infinity".toList, "nan".toList]

/-- Whether a whole text is a real number, with white space around it and a sign or none. -/
def spellsReal (text : String) : Bool :=
  let body := (takeSign (Text.stripBy Text.isSpace text.toList)).2
  realWords.contains (Text.lower body) || isDecimal body

end Critique.Numeral
