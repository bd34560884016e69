/-
# Binary floating point, exactly

A double is taken apart into a sign and a natural mantissa times a power of two, so that truncation,
wholeness and decimal text are computed on natural numbers and nothing is rounded twice.

Main statement: `truncate_eq_zero_of_lt_one` is the small case a reader may want first: a magnitude
below one is cut to zero, whatever its sign. `compareInt` puts a double beside an integer exactly,
however large the integer is.
-/

namespace Critique.Number

/-! ## 1. Taking a double apart -/

/-- What the bits of a double stand for. -/
inductive Binary64 where
  | nan
  | infinite (negative : Bool)
  | finite (negative : Bool) (mantissa : Nat) (exponent : Int)
  deriving DecidableEq

/-- Reads the sign, the eleven exponent bits and the fifty-two fraction bits. -/
def Binary64.ofFloat (x : Float) : Binary64 :=
  let bits := x.toBits.toNat
  let negative := bits / Nat.pow 2 63 == 1
  let power : Nat := bits / Nat.pow 2 52 % 2048
  let fraction : Nat := bits % Nat.pow 2 52
  if power = 2047 then (if fraction = 0 then .infinite negative else .nan)
  else if power = 0 then .finite negative fraction (-1074)
  else .finite negative (fraction + Nat.pow 2 52) ((power : Int) - 1075)

/-! ## 2. Whole numbers -/

/-- The whole part of a magnitude. -/
def wholePart (mantissa : Nat) (exponent : Int) : Nat :=
  match exponent with
  | .ofNat e => mantissa * Nat.pow 2 e
  | .negSucc e => mantissa / Nat.pow 2 (e + 1)

/-- Whether a magnitude has no fractional part. -/
def isWhole (mantissa : Nat) (exponent : Int) : Bool :=
  match exponent with
  | .ofNat _ => true
  | .negSucc e => mantissa % Nat.pow 2 (e + 1) == 0

/-- The number cut to its whole part, toward zero. -/
def truncate (negative : Bool) (mantissa : Nat) (exponent : Int) : Int :=
  if negative then -(wholePart mantissa exponent : Int) else wholePart mantissa exponent

theorem truncate_eq_zero_of_lt_one {mantissa e : Nat} (small : mantissa < Nat.pow 2 (e + 1))
    (negative : Bool) : truncate negative mantissa (.negSucc e) = 0 := by
  have whole : wholePart mantissa (.negSucc e) = 0 := Nat.div_eq_of_lt small
  simp [truncate, whole]

/-! ## 3. Beside an integer -/

/-- A double and an integer, both multiplied by one power of two that makes the double whole. -/
def overCommonPower (negative : Bool) (mantissa : Nat) (exponent n : Int) : Int × Int :=
  let signed : Int := if negative then -(mantissa : Int) else mantissa
  match exponent with
  | .ofNat e => (signed * Nat.pow 2 e, n)
  | .negSucc e => (signed, n * Nat.pow 2 (e + 1))

/-- How a double compares to an integer, without any rounding; what is no number does not. -/
def compareInt (x : Float) (n : Int) : Option Ordering :=
  match Binary64.ofFloat x with
  | .nan => none
  | .infinite negative => some (if negative then .lt else .gt)
  | .finite negative mantissa exponent =>
    let (a, b) := overCommonPower negative mantissa exponent n
    some (compare a b)

/-! ## 4. Decimal to binary -/

/-- The double nearest to `m · 10 ^ e`. Magnitudes that no double comes near are decided by their
place alone, so that no huge power is ever computed. -/
def ofDecimal (negative : Bool) (m : Nat) (e : Int) : Float :=
  let place : Int := (Nat.log2 m : Int) * 30103 / 100000 + e
  let magnitude : Float :=
    if m = 0 then 0
    else if 400 < place then 1 / 0
    else if place < -400 then 0
    else match e with
      | .ofNat k => Float.ofScientific m false k
      | .negSucc k => Float.ofScientific m true (k + 1)
  if negative then -magnitude else magnitude

end Critique.Number
