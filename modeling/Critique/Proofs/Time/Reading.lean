/-
# What is read as a stamp can be written

A stamp comes in as a text or as a count since 1970, and whichever way it comes, the wall shows a
year from 0 to 9999 and the zone is less than a day away from UTC (`Stamp.Legible`).  The parts of a
text are bounded by their digits: a field of so many digits is worth less than that power of ten
(`takeDigits_lt`), so the date lies in the calendar, the time of day in its day, and the offset of
the zone below a day.  A count is refused outside of the same years.

The year 0 is all that keeps a stamp that was read from being written, and a check refuses just
that year (`fits_of_checked`).

* `readDateTime_legible`, `ofUnix_legible` and `ofFloat_legible`: the three ways in;
* `read_legible`: what a text is read as;
* `fits_of_checked`: what passes the check can be written.
-/
import Critique.Proofs.Time.Stamp

namespace Critique.Time

open Numeral (worth)

/-! ## 1. The years 0 to 9999 -/

/-- The date of a day of the years 0 to 9999 shows one of these years. -/
theorem Date.year_ofDays {days : Int} (first : -719528 ≤ days) (last : days ≤ 2932896) :
    0 ≤ (Date.ofDays days).year ∧ (Date.ofDays days).year ≤ 9999 := by
  have lower : 0 ≤ (days + 719468) % 146097 := Int.emod_nonneg _ (by decide)
  have upper : (days + 719468) % 146097 < 146097 := Int.emod_lt_of_pos _ (by decide)
  have hspec := YearDay.ofEraDay_spec lower upper
  rw [Date.ofDays]
  generalize YearDay.ofEraDay ((days + 719468) % 146097) = y at hspec
  obtain ⟨c, q, r, d⟩ := y
  obtain ⟨c0, c1, q0, q1, r0, r1, d0, d1, -, total⟩ := hspec
  simp only [Date.ofEra, YearDay.inEra] at *
  -- the year 0 begins in the era before the first, whose last days are its January and February
  have hera : (days + 719468) / 146097 = -1 ∨ 0 ≤ (days + 719468) / 146097 := by omega
  rcases hera with hbefore | hfrom
  · have hday : 306 ≤ d := by omega
    split <;> omega
  · split <;> omega

/-- A date of the years 0 to 9999 is one of the days of these years. -/
theorem Date.toDays_bounds {date : Date} (valid : date.Valid) (first : 0 ≤ date.year)
    (last : date.year ≤ 9999) : -719528 ≤ date.toDays ∧ date.toDays ≤ 2932896 := by
  obtain ⟨year, month, day⟩ := date
  obtain ⟨month0, month1, day0, day1⟩ := valid
  simp only [Date.toDays] at *
  have hdays : daysInMonth year month ≤ 31 := by
    unfold daysInMonth
    split
    · split <;> decide
    · split <;> decide
  split <;> omega

/-- A stamp shows a year from 0 to 9999, in no zone or in one that can be written. -/
structure Stamp.Legible (s : Stamp) : Prop where
  year_nonneg : 0 ≤ s.date.year
  year_le : s.date.year ≤ 9999
  zone : ZoneFits s.zone

/-- A stamp whose wall lies in the years 0 to 9999 is legible if its zone is. -/
theorem Stamp.legible_of_wall {s : Stamp} (first : -719528 ≤ s.wall / microsPerDay)
    (last : s.wall / microsPerDay ≤ 2932896) (hzone : ZoneFits s.zone) : s.Legible :=
  have hyear := Date.year_ofDays first last
  ⟨hyear.1, hyear.2, hzone⟩

/-- The stamp of parts that lie in their ranges is legible. -/
theorem Stamp.legible_ofParts {date : Date} {ofDay : Int} {zone : Option Int} (valid : date.Valid)
    (year0 : 0 ≤ date.year) (year1 : date.year ≤ 9999) (day0 : 0 ≤ ofDay)
    (day1 : ofDay < microsPerDay) (hzone : ZoneFits zone) :
    (Stamp.ofParts date ofDay zone).Legible := by
  obtain ⟨first, last⟩ := Date.toDays_bounds valid year0 year1
  have hday : (Stamp.ofParts date ofDay zone).wall / microsPerDay = date.toDays := by
    simp only [Stamp.ofParts, microsPerDay] at *
    omega
  exact Stamp.legible_of_wall (by rw [hday]; exact first) (by rw [hday]; exact last) hzone

/-! ## 2. Digits -/

theorem asciiDigitValue?_lt {c : Char} {d : Nat} (h : Text.asciiDigitValue? c = some d) :
    d < 10 := by
  unfold Text.asciiDigitValue? at h
  split at h
  · next hdigit =>
    have hle : c.toNat ≤ '9'.toNat := hdigit.2
    have hnine : '9'.toNat = 57 := rfl
    have hzero : '0'.toNat = 48 := rfl
    have hd := Option.some.inj h
    omega
  · cases h

/-- **So many digits are worth less than that power of ten.** -/
theorem takeDigits_lt {width n : Nat} {s rest : List Char} (h : takeDigits width s = some (n, rest)) :
    n < 10 ^ width := by
  induction width generalizing s n rest with
  | zero =>
    simp only [takeDigits, Option.some.injEq, Prod.mk.injEq] at h
    rw [← h.1]
    decide
  | succ width ih =>
    simp only [takeDigits, bind, Option.bind_eq_some_iff, pure, Option.some.injEq] at h
    obtain ⟨c, -, d, hd, ⟨m, t⟩, hrest, hn⟩ := h
    have hm := ih hrest
    have hdigit := asciiDigitValue?_lt hd
    have hworth : d * 10 ^ width + m = n := (Prod.mk.injEq ..).mp hn |>.1
    have hle : d * 10 ^ width ≤ 9 * 10 ^ width := Nat.mul_le_mul_right _ (by omega)
    rw [pow_succ]
    omega

theorem worth_lt {ds : List Nat} (small : ∀ d ∈ ds, d < 10) : worth ds < 10 ^ ds.length := by
  induction ds with
  | nil => decide
  | cons d ds ih =>
    rw [List.forall_mem_cons] at small
    have hds := ih small.2
    have hle : d * 10 ^ ds.length ≤ 9 * 10 ^ ds.length := Nat.mul_le_mul_right _ (by omega)
    rw [worth_cons, List.length_cons, pow_succ]
    omega

theorem plainRun_lt (s : List Char) :
    ∀ d ∈ (Numeral.plainRun Text.asciiDigitValue? s).1, d < 10 := by
  induction s with
  | nil => simp [Numeral.plainRun]
  | cons c t ih =>
    unfold Numeral.plainRun
    split
    · next d hd => exact List.forall_mem_cons.mpr ⟨asciiDigitValue?_lt hd, ih⟩
    · simp

/-! ## 3. The parts of a text -/

/-- What is read as a date is a date of the years 0 to 9999. -/
theorem readDate_valid {s rest : List Char} {date : Date} (h : readDate s = .ok (date, rest)) :
    date.Valid ∧ 0 ≤ date.year ∧ date.year ≤ 9999 := by
  simp only [readDate, bind, Except.bind, pure, Except.pure, throw, throwThe,
    MonadExceptOf.throw] at h
  split at h
  · cases h
  split at h
  · next year _ hyear =>
    split at h
    · split at h
      · next month _ hmonth =>
        split at h
        · split at h
          · next day _ hday =>
            split at h
            · cases h
            · next hmonthRange =>
              split at h
              · cases h
              · next hdayRange =>
                have hlt := takeDigits_lt hyear
                cases h
                simp only [Date.Valid]
                omega
          · cases h
        · cases h
      · cases h
    · cases h
  · cases h

/-- The fraction of a second is less than one. -/
theorem readFraction_lt {s rest : List Char} {micros : Nat}
    (h : readFraction s = some (micros, rest)) : micros < 1000000 := by
  unfold readFraction at h
  split at h
  · split at h
    · split at h
      · cases h
      · next t _ _ ds _ _ hrun =>
        have hds : ∀ d ∈ ds, d < 10 := by
          have hsmall := plainRun_lt t
          rwa [hrun] at hsmall
        have hsix : ∀ d ∈ (ds ++ List.replicate 6 0).take 6, d < 10 := by
          intro d hd
          rcases List.mem_append.mp (List.mem_of_mem_take hd) with hd | hd
          · exact hds d hd
          · rw [List.eq_of_mem_replicate hd]
            decide
        have hlength : ((ds ++ List.replicate 6 0).take 6).length = 6 := by simp
        have hworth := worth_lt hsix
        rw [hlength] at hworth
        cases h
        exact hworth
    · cases h
      decide
  · cases h
    decide

/-- What is read as a time of day lies in a day. -/
theorem readTime_lt {s rest : List Char} {ofDay : Nat} (h : readTime s = some (ofDay, rest)) :
    ofDay < 86400000000 := by
  simp only [readTime, bind, Option.bind_eq_some_iff, Option.guard_eq_some'] at h
  obtain ⟨⟨hour, s⟩, -, t, -, ⟨minute, s⟩, -, -, ⟨hhour, hminute⟩, h⟩ := h
  simp only at hhour hminute h
  split at h
  · cases h
    omega
  · simp only [Option.bind_eq_some_iff, Option.guard_eq_some'] at h
    obtain ⟨⟨second, s⟩, -, -, hsecond, ⟨micros, s⟩, hfraction, h⟩ := h
    have hmicros := readFraction_lt hfraction
    cases h
    simp only at hsecond
    omega

/-- What is read as a zone can be written. -/
theorem readZone_fits {s : List Char} {zone : Option Int} (h : readZone s = some zone) :
    ZoneFits zone := by
  unfold readZone at h
  split at h
  · cases h
    intro offset hoffset
    cases hoffset
  · split at h
    · split at h
      · cases h
        intro offset hoffset
        cases hoffset
        decide
      · cases h
    · split at h
      · simp only [bind, Option.bind_eq_some_iff, Option.guard_eq_some'] at h
        obtain ⟨⟨hours, s⟩, -, ⟨minutes, s⟩, -, -, ⟨hminutes, hhours, -⟩, h⟩ := h
        cases h
        intro offset hoffset
        cases hoffset
        simp only at hminutes hhours
        split <;> omega
      · cases h

/-! ## 4. The ways in -/

theorem toOption_eq_some_iff {ε α : Type} {x : Except ε α} {a : α} :
    x.toOption = some a ↔ x = .ok a := by
  cases x <;> simp [Except.toOption]

/-- A date and a time of day, read with a zone, make a legible stamp. -/
theorem readDateTime_legible {s : List Char} {stamp : Stamp} (h : readDateTime s = some stamp) :
    stamp.Legible := by
  simp only [readDateTime, bind, Option.bind_eq_some_iff, Option.guard_eq_some',
    toOption_eq_some_iff] at h
  obtain ⟨⟨date, s⟩, hdate, c, -, -, -, ⟨ofDay, s⟩, htime, zone, hzone, h⟩ := h
  obtain ⟨hvalid, hyear0, hyear1⟩ := readDate_valid hdate
  have hofDay := readTime_lt htime
  cases h
  exact Stamp.legible_ofParts hvalid hyear0 hyear1 (by omega) (by rw [microsPerDay]; omega)
    (readZone_fits hzone)

/-- A bare date makes a legible stamp. -/
theorem readBareDate_legible {s : List Char} {stamp : Stamp} (h : readBareDate s = .ok stamp) :
    stamp.Legible := by
  unfold readBareDate at h
  split at h
  · cases h
  · next date hdate =>
    obtain ⟨hvalid, hyear0, hyear1⟩ := readDate_valid hdate
    cases h
    exact Stamp.legible_ofParts hvalid hyear0 hyear1 (by decide) (by decide) nofun
  · cases h

/-- An instant that is taken lies in the years 0 to 9999. -/
theorem ofMicros_legible {micros : Int} {stamp : Stamp} (h : Stamp.ofMicros micros = .ok stamp) :
    stamp.Legible := by
  unfold Stamp.ofMicros at h
  split at h
  · cases h
  · split at h
    · cases h
    · cases h
      refine Stamp.legible_of_wall ?_ ?_ ?_
      · simp only [Stamp.ofInstant, microsPerDay]
        omega
      · simp only [Stamp.ofInstant, microsPerDay]
        omega
      · intro offset hoffset
        cases hoffset
        decide

/-- **A whole count makes a legible stamp.** -/
theorem ofUnix_legible {count : Int} {stamp : Stamp} (h : Stamp.ofUnix count = .ok stamp) :
    stamp.Legible :=
  ofMicros_legible h

/-- **A count with a fraction makes a legible stamp.** -/
theorem ofFloat_legible {x : Float} {stamp : Stamp} (h : Stamp.ofFloat x = .ok stamp) :
    stamp.Legible := by
  unfold Stamp.ofFloat at h
  split at h
  · cases h
  · cases h
  · exact ofMicros_legible h

/-- **What a text is read as is legible**, whichever of its forms the text has. -/
theorem read_legible {text : String} {stamp : Stamp} (h : Stamp.read text = .ok stamp) :
    stamp.Legible := by
  unfold Stamp.read at h
  simp only at h
  split at h
  · next hdateTime =>
    cases h
    exact readDateTime_legible hdateTime
  · exact ofUnix_legible h
  · split at h
    · next hcount =>
      obtain ⟨x, -, hx⟩ := Option.map_eq_some_iff.mp hcount
      cases h
      exact ofFloat_legible hx
    · exact readBareDate_legible h

/-- **A legible stamp that passes the check can be written.** -/
theorem fits_of_checked {s t : Stamp} (hlegible : s.Legible) (h : s.checked = .ok t) : t.Fits := by
  obtain ⟨rfl, hyear⟩ := checked_eq_ok_iff.mp h
  have hnonneg := hlegible.year_nonneg
  exact ⟨by omega, hlegible.year_le, hlegible.zone⟩

end Critique.Time
