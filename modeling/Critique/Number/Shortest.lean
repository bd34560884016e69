/-
# The shortest decimal of a double

The digits of a double are the fewest that read back as the same double; of several decimals with
that many digits it is the nearest. A decimal reads back iff it lies in the interval of numbers that
round to the double, whose ends belong to it iff the mantissa is even. For each count of digits the
two neighbours of the value on that decimal grid are tested, and the first grid with a hit wins.

`layout` then sets the point: positional for decimal exponents from -4 to 15, with at least one
digit on each side, and with an exponent of at least two digits elsewhere.

Main statement: `trimZeros_worth` (dropping final zeros and raising the place keeps the value).
-/
import Critique.Number.Binary64
import Critique.Text.Numeral

namespace Critique.Number

/-! ## 1. Magnitudes as fractions -/

/-- A non-negative fraction; the denominator is not zero. -/
structure Fraction where
  num : Nat
  den : Nat

/-- `mantissa · base ^ exponent` as a fraction. -/
def Fraction.scaled (mantissa base : Nat) : Int → Fraction
  | .ofNat e => ⟨mantissa * Nat.pow base e, 1⟩
  | .negSucc e => ⟨mantissa, Nat.pow base (e + 1)⟩

/-- Comparison of fractions by cross multiplication. -/
def Fraction.lt (a b : Fraction) : Bool :=
  a.num * b.den < b.num * a.den

/-- Comparison of fractions by cross multiplication. -/
def Fraction.le (a b : Fraction) : Bool :=
  a.num * b.den ≤ b.num * a.den

/-- The distance of two fractions. -/
def Fraction.distance (a b : Fraction) : Fraction :=
  let p := a.num * b.den
  let q := b.num * a.den
  ⟨(p - q) + (q - p), a.den * b.den⟩

/-! ## 2. The interval that reads back -/

/-- The numbers that round to a double. -/
structure Interval where
  lower : Fraction
  upper : Fraction
  closed : Bool

/-- The numbers nearer to `mantissa · 2 ^ exponent` than to any other double. Below a power of two
the next double is only half as far away, unless it is the least exponent. -/
def Interval.around (mantissa : Nat) (exponent : Int) : Interval :=
  let below := if mantissa = Nat.pow 2 52 ∧ exponent ≠ -1074 then 1 else 2
  { lower := .scaled (4 * mantissa - below) 2 (exponent - 2)
    upper := .scaled (4 * mantissa + 2) 2 (exponent - 2)
    closed := mantissa % 2 == 0 }

/-- Whether a number rounds to the double. -/
def Interval.holds (i : Interval) (x : Fraction) : Bool :=
  if i.closed then i.lower.le x && x.le i.upper else i.lower.lt x && x.lt i.upper

/-! ## 3. The digits -/

/-- The decimal place of a positive fraction: the largest `p` of the range of doubles with
`10 ^ p ≤ x`. -/
def placeOf (x : Fraction) : Int :=
  match (List.range 640).find? fun (k : Nat) => (Fraction.scaled 1 10 (310 - (k : Int))).le x with
  | some k => 310 - (k : Int)
  | none => -330

/-- The better of the two neighbours of `x` on the grid of `10 ^ unit`, if one reads back. -/
def onGrid (i : Interval) (x : Fraction) (unit : Int) : Option Nat :=
  let scaled : Fraction :=
    match unit with
    | .ofNat u => ⟨x.num, x.den * Nat.pow 10 u⟩
    | .negSucc u => ⟨x.num * Nat.pow 10 (u + 1), x.den⟩
  let down := scaled.num / scaled.den
  let up := down + 1
  let value (n : Nat) := Fraction.scaled n 10 unit
  match i.holds (value down) && down != 0, i.holds (value up) with
  | true, true =>
    let toDown := x.distance (value down)
    let toUp := x.distance (value up)
    if toDown.lt toUp || (toDown.le toUp && down % 2 == 0) then some down else some up
  | true, false => some down
  | false, true => some up
  | false, false => none

/-- Takes final zeros off a number and counts them in the place. -/
def trimZeros : Nat → Nat → Int → Nat × Int
  | 0, n, unit => (n, unit)
  | fuel + 1, n, unit =>
    if n ≠ 0 ∧ n % 10 = 0 then trimZeros fuel (n / 10) (unit + 1) else (n, unit)

/-- Digits and place of the shortest decimal in an interval, from some count of digits on. -/
def shortestFrom (i : Interval) (x : Fraction) (place : Int) : Nat → Nat → Nat × Int
  | 0, _ => (0, 0)
  | tries + 1, count =>
    let unit := place + 1 - (count : Int)
    match onGrid i x unit with
    | some n => trimZeros 20 n unit
    | none => shortestFrom i x place tries (count + 1)

/-- The shortest decimal `n · 10 ^ unit` of a positive double. -/
def shortest (mantissa : Nat) (exponent : Int) : Nat × Int :=
  let x := Fraction.scaled mantissa 2 exponent
  shortestFrom (.around mantissa exponent) x (placeOf x) 17 1

/-- Dropping final zeros keeps the value: the number times the power of ten that the place has
gained is the number before. -/
theorem trimZeros_worth (fuel n : Nat) (unit : Int) :
    ∃ k : Nat, (trimZeros fuel n unit).2 = unit + k ∧
      (trimZeros fuel n unit).1 * Nat.pow 10 k = n := by
  induction fuel generalizing n unit with
  | zero => exact ⟨0, by simp [trimZeros]⟩
  | succ fuel ih =>
    by_cases h : n ≠ 0 ∧ n % 10 = 0
    · obtain ⟨k, place, value⟩ := ih (n / 10) (unit + 1)
      refine ⟨k + 1, ?_, ?_⟩
      · simp only [trimZeros, if_pos h, place]; omega
      · simp only [trimZeros, if_pos h]
        have next : Nat.pow 10 (k + 1) = Nat.pow 10 k * 10 := rfl
        rw [next, ← Nat.mul_assoc, value]
        omega
    · exact ⟨0, by simp [trimZeros, h]⟩

/-! ## 4. The layout -/

/-- Sets the point into digits whose last one stands at `unit`. -/
def layout (n : Nat) (unit : Int) : List Char :=
  let ds := Numeral.renderNat n
  let place : Int := unit + (ds.length : Int) - 1
  if -4 ≤ place ∧ place < 16 then
    match place with
    | .ofNat p =>
      let filled := ds ++ List.replicate (p + 1 - ds.length) '0'
      let fraction := filled.drop (p + 1)
      filled.take (p + 1) ++ '.' :: (if fraction.isEmpty then ['0'] else fraction)
    | .negSucc p => '0' :: '.' :: (List.replicate p '0' ++ ds)
  else
    let mark := if place < 0 then '-' else '+'
    let point := match ds with
      | first :: second :: rest => first :: '.' :: second :: rest
      | short => short
    point ++ 'e' :: mark :: Numeral.padded 2 place.natAbs

/-- How the special doubles are spelled. -/
structure Spelling where
  nan : String
  infinity : String

/-- The text of a double. -/
def floatText (spelling : Spelling) (x : Float) : List Char :=
  match Binary64.ofFloat x with
  | .nan => spelling.nan.toList
  | .infinite negative => (if negative then ['-'] else []) ++ spelling.infinity.toList
  | .finite negative mantissa exponent =>
    let magnitude :=
      if mantissa = 0 then layout 0 0
      else
        let (n, unit) := shortest mantissa exponent
        layout n unit
    (if negative then ['-'] else []) ++ magnitude

end Critique.Number
