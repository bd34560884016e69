/-
# Stamps read back

A stamp that shows a year from 1 to 9999, in no zone or in one less than a day away from UTC, is
read as what it was written as.  Each field is written with a fixed number of digits, so the reader
of a field takes exactly that field (`takeDigits_field`); the parts of the stamp lie in the ranges
that the reader asks for; and a stamp is made of its parts (`ofParts_parts`).

* `readDate_field`, `readTime_field` and `readZone_renderZone`: the three parts read back;
* `read_render`: the whole stamp reads back.
-/
import Critique.Proofs.Text.Numeral
import Critique.Proofs.Time.Calendar
import Critique.Time.Stamp
import Mathlib.Data.String.Basic
import Mathlib.Tactic.Ring

namespace Critique.Time

open Numeral (digitChar digits worth)

/-! ## 1. Fields -/

theorem worth_cons (d : Nat) (ds : List Nat) :
    worth (d :: ds) = d * 10 ^ ds.length + worth ds := by
  have hfold : ∀ (ds : List Nat) (v : Nat), ds.foldl (fun value d => 10 * value + d) v
      = v * 10 ^ ds.length + worth ds := by
    intro ds
    induction ds with
    | nil => simp [worth]
    | cons e ds ih =>
      intro v
      rw [worth, List.foldl_cons, List.foldl_cons, ih, ih (10 * 0 + e), List.length_cons, pow_succ]
      ring
  rw [worth, List.foldl_cons, hfold]
  simp

/-- Digits are taken as what they are worth. -/
theorem takeDigits_digits {ds : List Nat} (small : ∀ d ∈ ds, d < 10) (rest : List Char) :
    takeDigits ds.length (ds.map digitChar ++ rest) = some (worth ds, rest) := by
  induction ds with
  | nil => rfl
  | cons d ds ih =>
    have hd := Numeral.asciiDigitValue?_digitChar (small d (by simp))
    have hds := ih fun e he => small e (by simp [he])
    rw [List.map_cons, List.cons_append, List.length_cons, worth_cons]
    simp [takeDigits, hd, hds]

/-- What a field is written with: as many digits as it is wide, worth the number. -/
theorem field_eq_map {width n : Nat} (hwidth : 0 < width) (h : n < 10 ^ width) :
    ∃ ds : List Nat, field width n = ds.map digitChar ∧ ds.length = width ∧ (∀ d ∈ ds, d < 10)
      ∧ worth ds = n := by
  have hlength := Numeral.length_digits_le hwidth h
  refine ⟨List.replicate (width - (digits n).length) 0 ++ digits n, ?_, ?_, ?_, ?_⟩
  · simp [field, Numeral.padded, Numeral.renderNat, digitChar]
  · simp
    omega
  · intro d hd
    rcases List.mem_append.mp hd with hd | hd
    · rw [List.eq_of_mem_replicate hd]
      decide
    · exact Numeral.digits_lt hd
  · rw [Numeral.worth_replicate_zero, Numeral.worth_digits]

/-- **A field is taken as its number**, whatever follows it. -/
theorem takeDigits_field {width n : Nat} (hwidth : 0 < width) (h : n < 10 ^ width)
    (rest : List Char) : takeDigits width (field width n ++ rest) = some (n, rest) := by
  obtain ⟨ds, hfield, hlength, hsmall, hworth⟩ := field_eq_map hwidth h
  rw [hfield, ← hlength, takeDigits_digits hsmall, hworth]

theorem length_field {width n : Nat} (hwidth : 0 < width) (h : n < 10 ^ width) :
    (field width n).length = width := by
  obtain ⟨ds, hfield, hlength, -, -⟩ := field_eq_map hwidth h
  rw [hfield, List.length_map, hlength]

/-- Every character takes a byte at least. -/
theorem length_le_utf8ByteSize (s : List Char) : s.length ≤ (String.ofList s).utf8ByteSize := by
  rw [String.utf8ByteSize_ofList]
  induction s with
  | nil => simp
  | cons c t ih =>
    have hc := c.utf8Size_pos
    simp only [List.length_cons, String.utf8Len_cons]
    omega

/-! ## 2. Dates -/

/-- **A written date reads back.** -/
theorem readDate_field {date : Date} (valid : date.Valid) (year0 : 0 ≤ date.year)
    (year1 : date.year ≤ 9999) (rest : List Char) :
    readDate (field 4 date.year ++ '-' :: (field 2 date.month ++ '-' :: (field 2 date.day ++ rest)))
      = .ok (date, rest) := by
  obtain ⟨year, month, day⟩ := date
  obtain ⟨month0, month1, day0, day1⟩ := valid
  simp only at *
  have hdays : daysInMonth year month ≤ 31 := by
    unfold daysInMonth
    split
    · split <;> decide
    · split <;> decide
  obtain ⟨y, rfl⟩ := Int.eq_ofNat_of_zero_le year0
  obtain ⟨m, rfl⟩ := Int.eq_ofNat_of_zero_le (by omega : 0 ≤ month)
  obtain ⟨d, rfl⟩ := Int.eq_ofNat_of_zero_le (by omega : 0 ≤ day)
  have hy : y < 10 ^ 4 := by omega
  have hm : m < 10 ^ 2 := by omega
  have hd : d < 10 ^ 2 := by omega
  have hsize := length_le_utf8ByteSize
    (field 4 y ++ '-' :: (field 2 m ++ '-' :: (field 2 d ++ rest)))
  simp only [List.length_append, List.length_cons, length_field (by decide : 0 < 4) hy,
    length_field (by decide : 0 < 2) hm, length_field (by decide : 0 < 2) hd] at hsize
  rw [readDate, if_neg (by omega)]
  simp only [takeDigits_field (by decide : 0 < 4) hy, takeChar, List.head?_cons, List.tail_cons,
    takeDigits_field (by decide : 0 < 2) hm, takeDigits_field (by decide : 0 < 2) hd, if_true,
    bind, Except.bind, pure, Except.pure]
  rw [if_neg (by omega), if_neg (by omega)]

/-! ## 3. Times of day -/

/-- A character that may follow a time of day: one that opens a zone. -/
theorem readFraction_of_ne {c : Char} (point : c ≠ '.') (comma : c ≠ ',') (t : List Char) :
    readFraction (c :: t) = some (0, c :: t) := by
  simp [readFraction, point, comma]

/-- What stands behind the seconds: a fraction, unless it is zero. -/
theorem readFraction_field {micros : Nat} (h : micros < 1000000) {rest : List Char}
    (stop : ∀ c ∈ rest.head?, Text.asciiDigitValue? c = none ∧ c ≠ '.' ∧ c ≠ ',') :
    readFraction ((if (micros : Int) = 0 then [] else '.' :: field 6 micros) ++ rest)
      = some (micros, rest) := by
  by_cases hzero : micros = 0
  · subst hzero
    cases rest with
    | nil => rfl
    | cons c t =>
      obtain ⟨-, hpoint, hcomma⟩ := stop c (by simp)
      exact readFraction_of_ne hpoint hcomma t
  · obtain ⟨ds, hfield, hlength, hsmall, hworth⟩ := field_eq_map (by decide : 0 < 6)
      (by omega : micros < 10 ^ 6)
    have hrun := Numeral.plainRun_digits (fun _ => Numeral.asciiDigitValue?_digitChar) hsmall
      fun c hc => (stop c hc).1
    obtain ⟨d, ds, rfl⟩ := List.exists_cons_of_length_pos (by omega : 0 < ds.length)
    have htake : ((d :: ds) ++ List.replicate 6 0).take 6 = d :: ds := by
      rw [← hlength, List.take_left]
    rw [if_neg (by omega), hfield, List.cons_append, readFraction]
    simp only [true_or, if_true, hrun, htake, hworth]

/-- **A written time of day reads back.** -/
theorem readTime_field {ofDay : Nat} (h : ofDay < 86400000000) {rest : List Char}
    (stop : ∀ c ∈ rest.head?, Text.asciiDigitValue? c = none ∧ c ≠ '.' ∧ c ≠ ',') :
    readTime (field 2 ((ofDay / 1000000 / 3600 : Nat) : Int) ++ ':'
      :: (field 2 ((ofDay / 1000000 / 60 % 60 : Nat) : Int) ++ ':'
        :: (field 2 ((ofDay / 1000000 % 60 : Nat) : Int)
          ++ ((if ((ofDay % 1000000 : Nat) : Int) = 0 then []
            else '.' :: field 6 ((ofDay % 1000000 : Nat) : Int)) ++ rest)))) = some (ofDay, rest) := by
  have hhour : ofDay / 1000000 / 3600 < 10 ^ 2 := by omega
  have hminute : ofDay / 1000000 / 60 % 60 < 10 ^ 2 := by omega
  have hsecond : ofDay / 1000000 % 60 < 10 ^ 2 := by omega
  have hfraction := readFraction_field (by omega : ofDay % 1000000 < 1000000) stop
  rw [readTime]
  simp only [takeDigits_field (by decide : 0 < 2) hhour, takeDigits_field (by decide : 0 < 2) hminute,
    takeDigits_field (by decide : 0 < 2) hsecond, takeChar, List.head?_cons, List.tail_cons, if_true,
    bind, Option.bind, guard, pure, hfraction]
  rw [if_pos (by omega), if_pos (by omega)]
  simp only [Option.some.injEq, Prod.mk.injEq, and_true]
  omega

/-! ## 4. Zones -/

/-- A zone that can be written: none at all, or one less than a day away from UTC. -/
def ZoneFits (zone : Option Int) : Prop :=
  ∀ offset ∈ zone, offset.natAbs < 24 * 60

theorem readZone_sign {c : Char} (hc : c = '+' ∨ c = '-') {hours minutes : Nat} (hh : hours < 24)
    (hm : minutes < 60) :
    readZone (c :: (field 2 hours ++ ':' :: field 2 minutes))
      = some (some (if c = '+' then ((hours : Int) * 60 + minutes) else -(hours * 60 + minutes))) := by
  have hhours := takeDigits_field (by decide : 0 < 2) (by omega : hours < 10 ^ 2)
  have hminutes := takeDigits_field (by decide : 0 < 2) (by omega : minutes < 10 ^ 2) []
  rw [List.append_nil] at hminutes
  have hz : ¬ (c = 'Z' ∨ c = 'z') := by rcases hc with rfl | rfl <;> decide
  have hsign : c = '+' ∨ c = '-' ∨ c = '\u2212' := by rcases hc with rfl | rfl <;> decide
  rw [readZone, if_neg hz, if_pos hsign]
  simp only [hhours, takeChar, List.head?_cons, List.tail_cons, if_true, Option.getD_some, hminutes,
    bind, Option.bind, guard, pure, hh, hm, List.isEmpty_nil, and_self]

/-- **A written zone reads back.** -/
theorem readZone_renderZone {zone : Option Int} (h : ZoneFits zone) :
    readZone (renderZone zone) = some zone := by
  cases zone with
  | none => rfl
  | some offset =>
    have hday := h offset rfl
    by_cases hzero : offset = 0
    · subst hzero
      rfl
    · have hhours : offset.natAbs / 60 < 24 := by omega
      have hminutes : offset.natAbs % 60 < 60 := by omega
      rw [renderZone, if_neg hzero]
      by_cases hsign : offset < 0
      · have hread := readZone_sign (Or.inr rfl) hhours hminutes
        rw [if_pos hsign]
        rw [if_neg (by decide)] at hread
        refine hread.trans ?_
        simp only [Option.some.injEq]
        omega
      · have hread := readZone_sign (Or.inl rfl) hhours hminutes
        rw [if_neg hsign]
        rw [if_pos rfl] at hread
        refine hread.trans ?_
        simp only [Option.some.injEq]
        omega

/-- A zone does not begin like a fraction. -/
theorem head_renderZone (zone : Option Int) :
    ∀ c ∈ (renderZone zone).head?, Text.asciiDigitValue? c = none ∧ c ≠ '.' ∧ c ≠ ',' := by
  intro c hc
  have hsigns : c = 'Z' ∨ c = '-' ∨ c = '+' := by
    cases zone with
    | none => simp [renderZone] at hc
    | some offset =>
      by_cases hzero : offset = 0
      · simp only [renderZone, hzero, if_true, List.head?_cons, Option.mem_some_iff] at hc
        exact Or.inl hc.symm
      · by_cases hsign : offset < 0
        · simp only [renderZone, if_neg hzero, if_pos hsign, List.head?_cons,
            Option.mem_some_iff] at hc
          exact Or.inr (Or.inl hc.symm)
        · simp only [renderZone, if_neg hzero, if_neg hsign, List.head?_cons,
            Option.mem_some_iff] at hc
          exact Or.inr (Or.inr hc.symm)
  rcases hsigns with rfl | rfl | rfl <;> decide

/-! ## 5. Whole stamps -/

/-- A stamp that can be written: its year has four digits and is one of the calendar, and its zone
can be written. -/
structure Stamp.Fits (s : Stamp) : Prop where
  year_pos : 1 ≤ s.date.year
  year_le : s.date.year ≤ 9999
  zone : ZoneFits s.zone

/-- **A stamp reads back.** -/
theorem readDateTime_renderChars {s : Stamp} (h : s.Fits) : readDateTime s.renderChars = some s := by
  obtain ⟨day0, day1⟩ := ofDay_bounds s
  obtain ⟨ofDay, hofDay⟩ := Int.eq_ofNat_of_zero_le day0
  have hlt : ofDay < 86400000000 := by
    rw [hofDay, microsPerDay] at day1
    omega
  have hdate := readDate_field (Date.valid_ofDays (s.wall / microsPerDay)) (by
    have := h.year_pos
    rw [Stamp.date] at this
    omega) h.year_le
  have htime := readTime_field hlt (head_renderZone s.zone)
  have hchars : s.renderChars = field 4 s.date.year ++ '-' :: (field 2 s.date.month ++ '-'
      :: (field 2 s.date.day ++ 'T' :: (field 2 ((ofDay / 1000000 / 3600 : Nat) : Int) ++ ':'
      :: (field 2 ((ofDay / 1000000 / 60 % 60 : Nat) : Int) ++ ':'
        :: (field 2 ((ofDay / 1000000 % 60 : Nat) : Int)
          ++ ((if ((ofDay % 1000000 : Nat) : Int) = 0 then []
            else '.' :: field 6 ((ofDay % 1000000 : Nat) : Int)) ++ renderZone s.zone)))))) := by
    simp [Stamp.renderChars, hofDay]
  have hparts : Stamp.ofParts s.date (ofDay : Int) s.zone = s := by
    rw [← hofDay]
    exact ofParts_parts s
  rw [hchars, readDateTime]
  simp only [Stamp.date] at hparts ⊢
  simp only [hdate, Except.toOption, List.head?_cons, List.tail_cons, htime,
    readZone_renderZone h.zone, bind, Option.bind, guard, true_or, if_true, pure, hparts]

/-- **What a stamp is written as is read as the stamp.** -/
theorem read_render {s : Stamp} (h : s.Fits) : Stamp.read s.render = .ok s := by
  rw [Stamp.read, Stamp.render, String.toList_ofList]
  simp only [readDateTime_renderChars h]

theorem checked_of_fits {s : Stamp} (h : s.Fits) : s.checked = .ok s := by
  have hyear := h.year_pos
  exact if_neg (by omega)

end Critique.Time
