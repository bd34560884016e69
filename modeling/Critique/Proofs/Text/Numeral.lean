/-
# Numerals read back

A number is written with digits below ten and no needless zero, so what is written determines the
number, and every reader of digits takes exactly the digits that were written.

* `plainRun_digits` and `digitRun_digits`: a run of digits takes what was written, and stops where
  the digits stop;
* `read_text`: a numeral that is short enough reads back as its number;
* `text_injective`: two numbers with one numeral are one number.
-/
import Critique.Text.Numeral
import Mathlib.Data.List.Basic
import Mathlib.Tactic.IntervalCases

namespace Critique.Numeral

/-! ## 1. The digits of a number -/

theorem digits_lt {n d : Nat} (h : d ∈ digits n) : d < 10 := by
  induction n using digits.induct with
  | case1 n hn =>
    rw [digits, if_pos hn, List.mem_singleton] at h
    omega
  | case2 n hn ih =>
    rw [digits, if_neg hn, List.mem_append, List.mem_singleton] at h
    rcases h with h | h
    · exact ih h
    · omega

/-- A number that has no more digits than a numeral may have. -/
def Short (n : Int) : Prop := (digits n.natAbs).length ≤ digitLimit

instance (n : Int) : Decidable (Short n) := inferInstanceAs (Decidable (_ ≤ _))

/-- A number below `10 ^ k` has at most `k` digits. -/
theorem length_digits_le {n k : Nat} (hk : 0 < k) (h : n < 10 ^ k) : (digits n).length ≤ k := by
  induction n using digits.induct generalizing k with
  | case1 n hn =>
    rw [digits, if_pos hn]
    exact hk
  | case2 n hn ih =>
    obtain ⟨j, rfl⟩ : ∃ j, k = j + 1 := ⟨k - 1, by omega⟩
    have hj : 0 < j := by
      rcases Nat.eq_zero_or_pos j with rfl | hj
      · omega
      · exact hj
    have hdiv : n / 10 < 10 ^ j := by
      rw [Nat.pow_succ] at h
      omega
    rw [digits, if_neg hn, List.length_append, List.length_singleton]
    exact Nat.succ_le_succ (ih hj hdiv)

/-- A larger number has no fewer digits. -/
theorem length_digits_mono {m n : Nat} (h : m ≤ n) : (digits m).length ≤ (digits n).length := by
  induction n using digits.induct generalizing m with
  | case1 n hn =>
    rw [digits, if_pos (by omega : m < 10), digits, if_pos hn]
    exact Nat.le_refl 1
  | case2 n hn ih =>
    by_cases hm : m < 10
    · rw [digits, if_pos hm]
      exact List.length_pos_iff.mpr (digits_ne_nil n)
    · rw [digits.eq_def m, if_neg hm, digits.eq_def n, if_neg hn, List.length_append,
        List.length_append]
      exact Nat.succ_le_succ (ih (by omega))

/-- A number that is not above a short one is short. -/
theorem short_of_le {m n : Nat} (h : m ≤ n) (hn : Short n) : Short m :=
  Nat.le_trans (length_digits_mono h) hn

/-- A number of sixty-four bits is short. -/
theorem short_of_lt {n : Int} (h : n.natAbs < 2 ^ 64) : Short n :=
  Nat.le_trans (length_digits_le (by decide : 0 < 20) (by omega)) (by decide)

/-- A power of ten has one digit more than zeros. -/
theorem length_digits_pow (k : Nat) : (digits (10 ^ k)).length = k + 1 := by
  induction k with
  | zero => simp [digits]
  | succ k ih =>
    have hpos : 0 < 10 ^ k := Nat.pow_pos (by decide)
    have hdiv : 10 ^ (k + 1) / 10 = 10 ^ k := by omega
    rw [digits, if_neg (by omega), hdiv, List.length_append, ih]
    rfl

theorem not_short_pow {k : Nat} (h : digitLimit ≤ k) : ¬ Short ((10 ^ k : Nat) : Int) := by
  rw [Short, Int.natAbs_natCast, length_digits_pow]
  exact Nat.not_le.mpr (Nat.lt_succ_of_le h)

theorem writtenWithin_of_long {n : Int} (h : ¬ Short n) : writtenWithin n = .error .unwritable :=
  if_pos (Nat.lt_of_not_le h)

/-- What is written within the limit is the text of a short number. -/
theorem writtenWithin_ok {n : Int} {written : String} (h : writtenWithin n = .ok written) :
    Short n ∧ written = text n := by
  unfold writtenWithin at h
  split at h
  · exact absurd h (by simp)
  · rename_i hle
    exact ⟨Nat.not_lt.mp hle, (Except.ok.inj h).symm⟩

/-- Only zero is written with a zero in front. -/
theorem eq_zero_of_head_digits {n : Nat} (h : (digits n).head? = some 0) : n = 0 := by
  induction n using digits.induct with
  | case1 n hn =>
    rw [digits, if_pos hn] at h
    simpa using h
  | case2 n hn ih =>
    rw [digits, if_neg hn, List.head?_append_of_ne_nil _ (digits_ne_nil _)] at h
    have := ih h
    omega

/-- Digits behind zeros are worth what they are worth alone. -/
theorem worth_replicate_zero (k : Nat) (ds : List Nat) :
    worth (List.replicate k 0 ++ ds) = worth ds := by
  induction k with
  | zero => simp
  | succ k ih => simpa [worth, List.replicate_succ] using ih

/-! ## 2. The characters of digits -/

theorem digitValue?_digitChar {d : Nat} (h : d < 10) : Text.digitValue? (digitChar d) = some d := by
  interval_cases d <;> rfl

theorem asciiDigitValue?_digitChar {d : Nat} (h : d < 10) :
    Text.asciiDigitValue? (digitChar d) = some d := by
  interval_cases d <;> rfl

theorem isSpace_digitChar {d : Nat} (h : d < 10) : Text.isSpace (digitChar d) = false := by
  interval_cases d <;> rfl

/-- A digit is no other character. -/
theorem digitChar_ne {d : Nat} (h : d < 10) {c : Char} (hc : Text.asciiDigitValue? c = none) :
    digitChar d ≠ c := by
  rintro rfl
  rw [asciiDigitValue?_digitChar h] at hc
  exact absurd hc (by simp)

/-- What a number is written with: a first digit and more digits, all of them below ten. -/
theorem renderNat_eq_cons (n : Nat) :
    ∃ d ds, digits n = d :: ds ∧ d < 10 ∧ (∀ e ∈ ds, e < 10) ∧
      renderNat n = digitChar d :: ds.map digitChar := by
  cases h : digits n with
  | nil => exact absurd h (digits_ne_nil n)
  | cons d ds =>
    refine ⟨d, ds, rfl, digits_lt (n := n) (by simp [h]), ?_, by simp [renderNat, h]⟩
    exact fun e he => digits_lt (n := n) (by simp [h, he])

/-- A natural number is written with digits only. -/
theorem notMem_renderNat {c : Char} (h : Text.asciiDigitValue? c = none) (n : Nat) :
    c ∉ renderNat n := by
  intro hc
  obtain ⟨d, hd, rfl⟩ := List.mem_map.mp hc
  exact digitChar_ne (digits_lt hd) h rfl

/-- An integer is written with digits and perhaps a minus. -/
theorem notMem_text {c : Char} (h : Text.asciiDigitValue? c = none) (minus : c ≠ '-') (n : Int) :
    c ∉ (text n).toList := by
  rw [text, String.toList_ofList]
  cases n with
  | ofNat n => exact notMem_renderNat h n
  | negSucc n =>
    rw [render, List.mem_cons, not_or]
    exact ⟨minus, notMem_renderNat h (n + 1)⟩

theorem text_ne_empty (n : Int) : text n ≠ "" := by
  intro h
  have hrender : render n = [] := by simpa [text] using congrArg String.toList h
  cases n with
  | ofNat n =>
    obtain ⟨d, ds, -, -, -, hcons⟩ := renderNat_eq_cons n
    exact absurd (hcons.symm.trans hrender) (List.cons_ne_nil _ _)
  | negSucc n => exact absurd hrender (List.cons_ne_nil _ _)

/-! ## 3. Runs of digits -/

/-- **A plain run takes the digits that were written**, if no digit follows them. -/
theorem plainRun_digits {digit? : Char → Option Nat}
    (value : ∀ d < 10, digit? (digitChar d) = some d) {ds : List Nat} (small : ∀ d ∈ ds, d < 10)
    {rest : List Char} (stop : ∀ c ∈ rest.head?, digit? c = none) :
    plainRun digit? (ds.map digitChar ++ rest) = (ds, rest) := by
  induction ds with
  | nil =>
    cases rest with
    | nil => rfl
    | cons c t => simp [plainRun, stop c (by simp)]
  | cons d ds ih =>
    have hd : digit? (digitChar d) = some d := value d (small d (by simp))
    have hds := ih fun e he => small e (by simp [he])
    simp [plainRun, hd, hds]

/-- A plain run of ASCII digits takes a natural number. -/
theorem plainRun_renderNat (n : Nat) {rest : List Char}
    (stop : ∀ c ∈ rest.head?, Text.asciiDigitValue? c = none) :
    plainRun Text.asciiDigitValue? (renderNat n ++ rest) = (digits n, rest) :=
  plainRun_digits (fun _ => asciiDigitValue?_digitChar) (fun _ => digits_lt) stop

/-- A run with underscores takes the digits that were written. -/
theorem digitRun_digits {ds : List Nat} (small : ∀ d ∈ ds, d < 10) :
    digitRun Text.digitValue? (ds.map digitChar) = some (ds, []) := by
  induction ds with
  | nil => rfl
  | cons d ds ih =>
    have hd : d < 10 := small d (by simp)
    have hne : digitChar d ≠ '_' := digitChar_ne hd rfl
    have hds := ih fun e he => small e (by simp [he])
    rw [List.map_cons, digitRun]
    · rw [digitValue?_digitChar hd, hds]
      rfl
    all_goals simp [hne]

theorem digitRun_renderNat (n : Nat) : digitRun Text.digitValue? (renderNat n) = some (digits n, []) :=
  digitRun_digits fun _ => digits_lt

/-! ## 4. Whole numerals -/

theorem signed_digits (negative : Bool) (n : Nat) :
    signed negative (digits n) = if negative then -(n : Int) else n := by
  simp [signed, worth_digits]

/-- A number that is short enough is within the limit. -/
theorem withinLimit_digits {n : Nat} (h : (digits n).length ≤ digitLimit) (negative : Bool) :
    withinLimit negative (digits n) = .ok (if negative then -(n : Int) else n) := by
  rw [withinLimit, if_neg (Nat.not_lt.mpr h), signed_digits]

/-- **A numeral that is short enough reads back as its number.** -/
theorem read_text {n : Int} (h : Short n) : read (text n) = .ok n := by
  -- behind the sign both kinds of numerals are the digits of a natural number
  have unsigned : ∀ (negative : Bool) (k : Nat), (digits k).length ≤ digitLimit →
      ∀ s : List Char, takeSign (s.dropWhile Text.isSpace) = (negative, renderNat k) →
        read (String.ofList s) = .ok (if negative then -(k : Int) else k) := by
    intro negative k hk s hs
    obtain ⟨d, ds, hdigits, hd, -, hrender⟩ := renderNat_eq_cons k
    have hne : digitChar d ≠ '_' := digitChar_ne hd rfl
    have hrun : digitRun Text.digitValue? (digitChar d :: ds.map digitChar) = some (d :: ds, []) := by
      rw [← hrender, digitRun_renderNat, hdigits]
    have hlimit : withinLimit negative (d :: ds) = .ok (if negative then -(k : Int) else k) := by
      rw [← hdigits]
      exact withinLimit_digits hk negative
    rw [read, String.toList_ofList, hs, hrender]
    simp [hne, hrun, hlimit]
  cases n with
  | ofNat k =>
    obtain ⟨d, ds, -, hd, -, hrender⟩ := renderNat_eq_cons k
    refine unsigned false k h _ ?_
    have hplus : digitChar d ≠ '+' := digitChar_ne hd rfl
    have hminus : digitChar d ≠ '-' := digitChar_ne hd rfl
    simp [render, hrender, isSpace_digitChar hd, takeSign, hplus, hminus]
  | negSucc k =>
    have := unsigned true (k + 1) h (render (Int.negSucc k)) rfl
    simpa [text, Int.negSucc_eq] using this

/-- A natural number is written as no other one is. -/
theorem renderNat_injective : Function.Injective renderNat := by
  intro m n h
  have hrun : ∀ k, plainRun Text.asciiDigitValue? (renderNat k ++ []) = (digits k, []) :=
    fun k => plainRun_renderNat k (by simp)
  have hm := hrun m
  rw [h, hrun n] at hm
  have hdigits : digits n = digits m := congrArg Prod.fst hm
  rw [← worth_digits m, ← worth_digits n, hdigits]

/-- **Two numbers with one numeral are one number.** -/
theorem text_injective : Function.Injective text := by
  have signed : ∀ m n : Nat, renderNat m ≠ '-' :: renderNat n := by
    intro m n h
    obtain ⟨d, ds, -, hd, -, hrender⟩ := renderNat_eq_cons m
    rw [hrender, List.cons.injEq] at h
    exact digitChar_ne hd rfl h.1
  intro m n h
  have hrender : render m = render n := by simpa [text] using congrArg String.toList h
  cases m with
  | ofNat m =>
    cases n with
    | ofNat n => exact congrArg Int.ofNat (renderNat_injective hrender)
    | negSucc n => exact absurd hrender (signed _ _)
  | negSucc m =>
    cases n with
    | ofNat n => exact absurd hrender.symm (signed _ _)
    | negSucc n =>
      have := renderNat_injective (List.cons.inj hrender).2
      exact congrArg Int.negSucc (Nat.succ.inj this)

end Critique.Numeral
