/-
# The calendar

Dates of the Gregorian calendar, extended to all years, and their count of days from 1 January 1970.
Years are counted from March inside four-hundred-year eras, so that the leap day is the last day of
a year and no table of months is needed.

Main statement: `Date.toDays_ofDays` (the day of the date of a day is that day).
-/

namespace Critique.Time

/-! ## 1. Dates -/

/-- A date; `Valid` says that it is one of the calendar. -/
structure Date where
  year : Int
  month : Int
  day : Int
  deriving DecidableEq

/-- Whether a year has a 29 February. -/
def isLeap (year : Int) : Bool :=
  year % 4 == 0 && (year % 100 != 0 || year % 400 == 0)

/-- The number of days of a month. -/
def daysInMonth (year month : Int) : Int :=
  if month = 2 then (if isLeap year then 29 else 28)
  else if month = 4 ∨ month = 6 ∨ month = 9 ∨ month = 11 then 30
  else 31

/-- The month and the day are ones of the calendar. -/
def Date.Valid (d : Date) : Prop :=
  1 ≤ d.month ∧ d.month ≤ 12 ∧ 1 ≤ d.day ∧ d.day ≤ daysInMonth d.year d.month

/-! ## 2. Days -/

/-- The day of a date, counted from 1 January 1970. -/
def Date.toDays (d : Date) : Int :=
  let year := if d.month ≤ 2 then d.year - 1 else d.year
  let month := if d.month ≤ 2 then d.month + 9 else d.month - 3
  let ofYear := (153 * month + 2) / 5 + d.day - 1
  let inEra := year % 400
  let ofEra := inEra * 365 + inEra / 4 - inEra / 100 + ofYear
  year / 400 * 146097 + ofEra - 719468

/-- A year and a day inside an era of four hundred years. -/
structure YearDay where
  century : Int
  cycle : Int
  year : Int
  day : Int

/-- Splits the day of an era into centuries, cycles of four years, years and days. The last century
and the last year of a cycle are a day longer, so both are capped. -/
def YearDay.ofEraDay (ofEra : Int) : YearDay :=
  let century := if 3 < ofEra / 36524 then 3 else ofEra / 36524
  let ofCentury := ofEra - 36524 * century
  let cycle := ofCentury / 1461
  let ofCycle := ofCentury - 1461 * cycle
  let year := if 3 < ofCycle / 365 then 3 else ofCycle / 365
  ⟨century, cycle, year, ofCycle - 365 * year⟩

/-- The year inside the era. -/
def YearDay.inEra (y : YearDay) : Int :=
  100 * y.century + 4 * y.cycle + y.year

/-- The date of a year and a day inside an era; January and February belong to the next year. -/
def Date.ofEra (era : Int) (y : YearDay) : Date :=
  let year := y.inEra + era * 400
  let month := (5 * y.day + 2) / 153
  { year := if 10 ≤ month then year + 1 else year
    month := if 10 ≤ month then month - 9 else month + 3
    day := y.day - (153 * month + 2) / 5 + 1 }

/-- The date of a day, counted from 1 January 1970. -/
def Date.ofDays (days : Int) : Date :=
  .ofEra ((days + 719468) / 146097) (.ofEraDay ((days + 719468) % 146097))

/-! ## 3. The two are inverse -/

/-- The parts of a day of an era lie in their ranges and add up to it. -/
theorem YearDay.ofEraDay_spec {n : Int} (lower : 0 ≤ n) (upper : n < 146097) :
    let y := YearDay.ofEraDay n
    0 ≤ y.century ∧ y.century ≤ 3 ∧ 0 ≤ y.cycle ∧ y.cycle ≤ 24 ∧ 0 ≤ y.year ∧ y.year ≤ 3 ∧
      0 ≤ y.day ∧ y.day ≤ 365 ∧ (y.day = 365 → y.year = 3) ∧
      n = 36524 * y.century + 1461 * y.cycle + 365 * y.year + y.day := by
  simp only [YearDay.ofEraDay]
  split <;> split <;> omega

/-- The day of a date that is built from proper parts. -/
theorem Date.toDays_ofEra (era : Int) {y : YearDay} (century : 0 ≤ y.century ∧ y.century ≤ 3)
    (cycle : 0 ≤ y.cycle ∧ y.cycle ≤ 24) (year : 0 ≤ y.year ∧ y.year ≤ 3)
    (day : 0 ≤ y.day ∧ y.day ≤ 365) :
    (Date.ofEra era y).toDays =
      era * 146097 + (36524 * y.century + 1461 * y.cycle + 365 * y.year + y.day) - 719468 := by
  obtain ⟨c, q, r, d⟩ := y
  simp only [Date.ofEra, Date.toDays, YearDay.inEra] at *
  by_cases h : 10 ≤ (5 * d + 2) / 153
  · have month : (5 * d + 2) / 153 - 9 ≤ 2 := by omega
    simp only [h, month, if_true]
    omega
  · have month : ¬ (5 * d + 2) / 153 + 3 ≤ 2 := by omega
    simp only [h, month, if_false]
    omega

/-- **The day of the date of a day is that day.** -/
theorem Date.toDays_ofDays (days : Int) : (Date.ofDays days).toDays = days := by
  have lower : 0 ≤ (days + 719468) % 146097 := Int.emod_nonneg _ (by decide)
  have upper : (days + 719468) % 146097 < 146097 := Int.emod_lt_of_pos _ (by decide)
  obtain ⟨c0, c1, q0, q1, r0, r1, d0, d1, -, total⟩ := YearDay.ofEraDay_spec lower upper
  rw [Date.ofDays, Date.toDays_ofEra _ ⟨c0, c1⟩ ⟨q0, q1⟩ ⟨r0, r1⟩ ⟨d0, d1⟩]
  omega

end Critique.Time
