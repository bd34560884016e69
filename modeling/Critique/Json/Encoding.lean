/-
# The encoding of a JSON text

A JSON text that arrives as bytes does not say how its characters are encoded, but it begins with an
ASCII character, and the second one is ASCII in all but rare texts. So zeros among the first four
bytes give away UTF-16 and UTF-32 and the order of their bytes; without such zeros it is UTF-8. A
text that is too short to tell is UTF-8 as well, unless it has exactly two bytes.

A half of a surrogate pair that stands alone is no character. Inside a JSON text it means what its
escape means, so it becomes that escape.

Main statements: `units_length` (the units of a text fill its bytes) and `detect_ascii` (no zeros,
no wide units).
-/
import Critique.Json.Reader
import Critique.Json.Writer
import Critique.Text.Utf8

namespace Critique.Json

/-! ## 1. Encodings -/

/-- How characters become bytes; wide units begin with their big or with their little end. -/
inductive Encoding where
  | utf8
  | utf16 (bigEnd : Bool)
  | utf32 (bigEnd : Bool)
  deriving DecidableEq

/-- The encoding that the first bytes of a JSON text give away. -/
def Encoding.detect : List Nat → Encoding
  | a :: b :: c :: d :: _ =>
    if a = 0 then (if b = 0 then .utf32 true else .utf16 true)
    else if b = 0 then (if c = 0 ∧ d = 0 then .utf32 false else .utf16 false)
    else .utf8
  | [a, b] => if a = 0 then .utf16 true else if b = 0 then .utf16 false else .utf8
  | _ => .utf8

theorem detect_ascii {a b : Nat} (ha : a ≠ 0) (hb : b ≠ 0) (rest : List Nat) :
    Encoding.detect (a :: b :: rest) = .utf8 := by
  rcases rest with _ | ⟨c, _ | ⟨d, rest⟩⟩ <;> simp [Encoding.detect, ha, hb]

/-! ## 2. Units -/

/-- The value of the bytes of a unit. -/
def unitValue (bigEnd : Bool) (bytes : List Nat) : Nat :=
  (if bigEnd then bytes else bytes.reverse).foldl (fun value b => 256 * value + b) 0

/-- Units of two bytes; none if a byte is left over. -/
def pairUnits? (bigEnd : Bool) : List Nat → Option (List Nat)
  | a :: b :: rest => (pairUnits? bigEnd rest).map (unitValue bigEnd [a, b] :: ·)
  | [] => some []
  | _ => none

/-- Units of four bytes; none if bytes are left over. -/
def quadUnits? (bigEnd : Bool) : List Nat → Option (List Nat)
  | a :: b :: c :: d :: rest => (quadUnits? bigEnd rest).map (unitValue bigEnd [a, b, c, d] :: ·)
  | [] => some []
  | _ => none

/-- The units of a text in two-byte units fill its bytes. -/
theorem units_length {bigEnd : Bool} {bytes units : List Nat}
    (h : pairUnits? bigEnd bytes = some units) : bytes.length = 2 * units.length := by
  fun_induction pairUnits? bigEnd bytes generalizing units with
  | case1 a b rest ih =>
    obtain ⟨tail, found, rfl⟩ := Option.map_eq_some_iff.1 h
    simp [ih found]
    omega
  | case2 => simp_all
  | case3 => simp at h

/-! ## 3. Characters -/

/-- The code points of bytes in an encoding with wide units; none where bytes are left over or a
unit is no code point. -/
def codePointsOf? : Encoding → List Nat → Option (List Nat)
  | .utf16 bigEnd, bytes => (pairUnits? bigEnd bytes).map joinPairs
  | .utf32 bigEnd, bytes =>
    (quadUnits? bigEnd bytes).filter fun units => units.all (· < 0x110000)
  | .utf8, bytes => some ((Text.Utf8.decode bytes).map Char.toNat)

/-- A code point in a JSON text: a character, or the escape of half of a surrogate pair. -/
def pointText (n : Nat) : List Char :=
  if isHighHalf n || isLowHalf n then unitEscape n else [Char.ofNat n]

/-- The text without the mark of the byte order that may stand in front of it. -/
def withoutMark : List Char → List Char
  | '\uFEFF' :: rest => rest
  | s => s

/-- The characters of a JSON text that was sent as the UTF-8 of another text, if they are encoded as
its first bytes say. -/
def characters? (sent : List Char) : Option (List Char) :=
  match Encoding.detect ((sent.take 4).flatMap Text.Utf8.encodeChar) with
  | .utf8 => some (withoutMark sent)
  | wide => (codePointsOf? wide (sent.flatMap Text.Utf8.encodeChar)).map (·.flatMap pointText)

end Critique.Json
