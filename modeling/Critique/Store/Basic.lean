/-
# Stores: what they share

A store answers with a record or with the cause for which it could not. Times come from a clock that
is read once for every record that is made.

`slice` is what a limit means: the first so many of a list, or all but the last so many where the
limit is negative.

Main statements: `slice_ofNat` and `length_slice` (what a limit leaves).
-/
import Critique.Json.Reader
import Critique.Wire

namespace Critique

/-! ## 1. Causes of failure -/

/-- Why a store could not answer: the server refused, a number was none, a text was no JSON, data
did not fit. -/
inductive StoreError where
  | refused (message : String)
  | numeral (flaw : Numeral.Flaw)
  | unreadable (error : Json.ReadError)
  | invalid (faults : List Fault)
  deriving DecidableEq

/-- The wording of a failure. -/
def StoreError.message : StoreError → String
  | .refused message => message
  | .numeral flaw => flaw.message
  | .unreadable error => error.message
  | .invalid faults => faultsMessage faults

/-! ## 2. The clock -/

/-- A clock: its readings in microseconds since 1970, and how many have been taken. -/
structure Clock where
  reading : Nat → Int
  taken : Nat

/-- The next reading, as a stamp in UTC. -/
def Clock.now (c : Clock) : Time.Stamp :=
  .ofInstant (c.reading c.taken)

/-- The clock after a reading. -/
def Clock.tick (c : Clock) : Clock :=
  { c with taken := c.taken + 1 }

/-! ## 3. Limits -/

/-- What a limit leaves of a list. -/
def slice {α : Type} (limit : Int) (xs : List α) : List α :=
  match limit with
  | .ofNat n => xs.take n
  | .negSucc n => xs.take (xs.length - (n + 1))

theorem slice_ofNat {α : Type} (n : Nat) (xs : List α) : slice (n : Int) xs = xs.take n := rfl

/-- A limit leaves as many as it says, or all but as many as it says. -/
theorem length_slice {α : Type} (limit : Int) (xs : List α) :
    (slice limit xs).length =
      if 0 ≤ limit then min limit.toNat xs.length else xs.length - limit.natAbs := by
  cases limit with
  | ofNat n => simp [slice]
  | negSucc n =>
    have negative : ¬ (0 : Int) ≤ Int.negSucc n := by omega
    rw [if_neg negative]
    simp only [slice, List.length_take, Int.natAbs_negSucc]
    omega

end Critique
