/-
# The dates of days are dates

Counting days by eras never leaves the calendar: the month lies between 1 and 12 and the day exists
in its month.  Only the day 365 of a year that is counted from March could fail to, as it is the
29 February of the year that follows; and a year has a day 365 only where the year that follows is
a leap year.

* `ofEraDay_leap`: the last day of a long year belongs to a leap year;
* `valid_ofDays`: the date of every day is one of the calendar.
-/
import Critique.Time.Calendar
import Mathlib.Tactic.IntervalCases

namespace Critique.Time

/-- **Only leap years have a day 365**: the year is the last of a cycle, and the cycle is not the
last of a century, unless the century is the last of the era. -/
theorem YearDay.ofEraDay_leap (n : Int) :
    let y := YearDay.ofEraDay n
    y.day = 365 → y.year = 3 ∧ (y.cycle = 24 → y.century = 3) := by
  simp only [YearDay.ofEraDay]
  split <;> split <;> omega

/-- A year is a leap year by its place in the era. -/
theorem isLeap_inEra (era : Int) {c q r : Int} (cycle : 0 ≤ q ∧ q ≤ 24) (last : r = 3)
    (whole : q = 24 → c = 3) : isLeap (100 * c + 4 * q + r + era * 400 + 1) = true := by
  simp only [isLeap, Bool.and_eq_true, Bool.or_eq_true, beq_iff_eq, bne_iff_ne, ne_eq]
  omega

/-- **The date of every day is one of the calendar.** -/
theorem Date.valid_ofDays (days : Int) : (Date.ofDays days).Valid := by
  have lower : 0 ≤ (days + 719468) % 146097 := Int.emod_nonneg _ (by decide)
  have upper : (days + 719468) % 146097 < 146097 := Int.emod_lt_of_pos _ (by decide)
  have hspec := YearDay.ofEraDay_spec lower upper
  have hleap := YearDay.ofEraDay_leap ((days + 719468) % 146097)
  rw [Date.ofDays]
  generalize YearDay.ofEraDay ((days + 719468) % 146097) = y at hspec hleap
  generalize (days + 719468) / 146097 = era
  obtain ⟨c, q, r, d⟩ := y
  obtain ⟨c0, c1, q0, q1, r0, r1, d0, d1, -, -⟩ := hspec
  simp only at c0 c1 q0 q1 r0 r1 d0 d1 hleap
  -- the month, counted from March, fixes all but one of the lengths
  obtain ⟨m, hm⟩ : ∃ m, m = (5 * d + 2) / 153 := ⟨_, rfl⟩
  have hm0 : 0 ≤ m := by omega
  have hm11 : m ≤ 11 := by omega
  simp only [Date.ofEra, Date.Valid, YearDay.inEra, ← hm]
  by_cases hfebruary : m = 11
  · subst hfebruary
    by_cases hlast : d = 365
    · obtain ⟨hr, hwhole⟩ := hleap hlast
      have hyear := isLeap_inEra era ⟨q0, q1⟩ hr hwhole
      simp only [show (10 : Int) ≤ 11 by decide, if_true, daysInMonth, hyear]
      omega
    · simp only [show (10 : Int) ≤ 11 by decide, if_true, daysInMonth]
      split <;> omega
  · interval_cases m <;> simp [daysInMonth] <;> omega

end Critique.Time
