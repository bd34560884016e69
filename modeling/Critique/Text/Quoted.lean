/-
# Quoted texts

How a text is shown inside a message: between single quotes, or between double quotes where it
holds a single one and no double one. The quote in use and the backslash take a backslash in front,
tab and the two line ends have short names, and every other unprintable character is spelled out in
hexadecimal, in two, four or eight digits as it needs. A text is given by its code points, so that
half of a surrogate pair can be shown too.

Main statement: `length_hex` (a spelled-out character has exactly the digits asked for).
-/
import Critique.Text.Case
import Critique.Text.UnprintableTable

namespace Critique.Text

/-! ## 1. Hexadecimal -/

/-- The lower-case hexadecimal digit of a number below sixteen. -/
def hexDigit (n : Nat) : Char :=
  Char.ofNat (if n < 10 then 0x30 + n else 0x57 + n)

/-- The last `width` hexadecimal digits of a number. -/
def hex : Nat → Nat → List Char
  | 0, _ => []
  | width + 1, n => hex width (n / 16) ++ [hexDigit (n % 16)]

theorem length_hex (width n : Nat) : (hex width n).length = width := by
  induction width generalizing n with
  | zero => rfl
  | succ width ih => simp [hex, ih]

/-! ## 2. Quoting -/

/-- Whether a code point stands for itself in a quoted text; half of a surrogate pair does not. -/
def isPrintable (n : Nat) : Bool :=
  !inRanges unprintableRanges n

/-- One code point of a text between quotes of the given kind. -/
def quotedPoint (quote : Char) (n : Nat) : List Char :=
  if n = quote.toNat ∨ n = 0x5C then ['\\', Char.ofNat n]
  else if n = 0x09 then ['\\', 't']
  else if n = 0x0A then ['\\', 'n']
  else if n = 0x0D then ['\\', 'r']
  else if isPrintable n then [Char.ofNat n]
  else if n < 0x100 then '\\' :: 'x' :: hex 2 n
  else if n < 0x10000 then '\\' :: 'u' :: hex 4 n
  else '\\' :: 'U' :: hex 8 n

/-- The quote that a text is shown in. -/
def quoteFor (codePoints : List Nat) : Char :=
  if codePoints.contains 0x27 && !codePoints.contains 0x22 then '\x22' else '\x27'

/-- The text of some code points as a message shows it. -/
def quotedPoints (codePoints : List Nat) : List Char :=
  let quote := quoteFor codePoints
  quote :: codePoints.flatMap (quotedPoint quote) ++ [quote]

/-- A text as a message shows it. -/
def quoted (s : List Char) : List Char :=
  quotedPoints (s.map Char.toNat)

end Critique.Text
