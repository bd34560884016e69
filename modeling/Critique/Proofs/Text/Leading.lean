/-
# The integer that a text begins with

A text begins with an integer if behind blanks and one sign or none there is a digit; the integer
has as many digits as there are, and what follows them does not matter.  `Begins` says so of the
characters of a text, without a reader.  The reader agrees with it: it skips exactly these blanks,
because neither a sign nor a digit of any script is a blank (`isBlank_of_digitValue?`), and it takes
exactly these digits, because what follows them is none (`plainRun_append`).  So a text begins with
one integer at most, and with none if the reader finds none.

* `leading_of_begins` and `leading_of_not_begins`: what is read where a text begins with an integer,
  and where it does not;
* `begins_unique`: a text begins with one integer at most;
* `leading_text_append`: a numeral that is short enough is read off the front of a text;
* `leading_exact`: what is read of a text, and when.
-/
import Critique.Proofs.Text.Numeral

namespace Critique.Numeral

open Text (digitValue? isBlank)

/-! ## 1. Integers at the start -/

/-- How a sign is written, and whether it is a minus. -/
inductive Sign : List Char → Bool → Prop
  | absent : Sign [] false
  | plus : Sign ['+'] false
  | minus : Sign ['-'] true

/-- A text begins with the integer of a sign and digits: there are blanks, the sign, and the digits,
which no further digit follows. -/
inductive Begins : List Char → Bool → List Nat → Prop
  | of {blanks sign run rest : List Char} {negative : Bool} {ds : List Nat}
      (blank : ∀ c ∈ blanks, isBlank c = true) (signed : Sign sign negative)
      (digits : run.map digitValue? = ds.map some) (nonempty : ds ≠ [])
      (longest : ∀ c ∈ rest.head?, digitValue? c = none) :
      Begins (blanks ++ (sign ++ (run ++ rest))) negative ds

/-- A text begins with the integer `n`. -/
def Leads (text : String) (n : Int) : Prop :=
  ∃ negative ds, Begins text.toList negative ds ∧ n = signed negative ds

/-- A text begins with an integer of more digits than a numeral may have. -/
def Overlong (text : String) : Prop :=
  ∃ negative ds, Begins text.toList negative ds ∧ digitLimit < ds.length

/-! ## 2. Characters -/

/-- **No digit of any script is a blank.** -/
theorem isBlank_of_digitValue? {c : Char} {d : Nat} (h : digitValue? c = some d) :
    isBlank c = false := by
  have hruns : ∀ z ∈ Text.digitZeros, ∀ k < 10, isBlank (Char.ofNat (z + k)) = false := by
    decide +kernel
  obtain ⟨z, hz, -⟩ := Option.map_eq_some_iff.mp h
  have hrun := List.find?_some hz
  rw [Bool.and_eq_true, decide_eq_true_eq, decide_eq_true_eq] at hrun
  have hchar := hruns z (List.mem_of_find?_eq_some hz) (c.toNat - z) (by omega)
  rwa [Nat.add_sub_cancel' hrun.1, Char.ofNat_toNat] at hchar

/-- A digit is no sign. -/
theorem takeSign_digit {c : Char} {d : Nat} (h : digitValue? c = some d) (s : List Char) :
    takeSign (c :: s) = (false, c :: s) := by
  have hne : ∀ sign : Char, digitValue? sign = none → c ≠ sign := by
    rintro sign hsign rfl
    exact absurd (h.symm.trans hsign) (by simp)
  unfold takeSign
  split
  · next heq => exact absurd (List.cons.inj heq).1 (hne _ (by decide))
  · next heq => exact absurd (List.cons.inj heq).1 (hne _ (by decide))
  · rfl

/-! ## 3. Runs -/

variable {digit? : Char → Option Nat}

/-- **A run takes the digits that no further digit follows.** -/
theorem plainRun_append {run rest : List Char} {ds : List Nat}
    (digits : run.map digit? = ds.map some) (longest : ∀ c ∈ rest.head?, digit? c = none) :
    plainRun digit? (run ++ rest) = (ds, rest) := by
  induction run generalizing ds with
  | nil =>
    obtain rfl : ds = [] := by simpa using digits.symm
    cases rest with
    | nil => rfl
    | cons c rest => simp [plainRun, longest c rfl]
  | cons c run ih =>
    cases ds with
    | nil => exact absurd digits (by simp)
    | cons d ds =>
      rw [List.map_cons, List.map_cons, List.cons.injEq] at digits
      rw [List.cons_append, plainRun, digits.1]
      simp only [ih digits.2]

/-- What a run takes are digits, and what it leaves does not begin with one. -/
theorem plainRun_split (digit? : Char → Option Nat) (s : List Char) :
    ∃ run, s = run ++ (plainRun digit? s).2 ∧
      run.map digit? = (plainRun digit? s).1.map some ∧
      ∀ c ∈ (plainRun digit? s).2.head?, digit? c = none := by
  induction s with
  | nil => exact ⟨[], rfl, rfl, by simp [plainRun]⟩
  | cons c s ih =>
    cases hdigit : digit? c with
    | none => exact ⟨[], by simp [plainRun, hdigit], by simp [plainRun, hdigit],
        by simp [plainRun, hdigit]⟩
    | some d =>
      obtain ⟨run, hs, hrun, hstop⟩ := ih
      have htake : plainRun digit? (c :: s) =
          (d :: (plainRun digit? s).1, (plainRun digit? s).2) := by
        rw [plainRun, hdigit]
      rw [htake]
      refine ⟨c :: run, ?_, ?_, hstop⟩
      · rw [List.cons_append, ← hs]
      · rw [List.map_cons, List.map_cons, hdigit, hrun]

theorem takeSign_split (s : List Char) :
    ∃ sign, s = sign ++ (takeSign s).2 ∧ Sign sign (takeSign s).1 := by
  unfold takeSign
  split
  · exact ⟨['+'], rfl, .plus⟩
  · exact ⟨['-'], rfl, .minus⟩
  · exact ⟨[], rfl, .absent⟩

/-! ## 4. The reader -/

/-- An integer has a digit. -/
theorem Begins.ne_nil {s : List Char} {negative : Bool} {ds : List Nat} (h : Begins s negative ds) :
    ds ≠ [] := by
  obtain ⟨-, -, -, nonempty, -⟩ := h
  exact nonempty

/-- The reader finds the sign and the digits of an integer that a text begins with. -/
theorem Begins.found {s : List Char} {negative : Bool} {ds : List Nat} (h : Begins s negative ds) :
    (takeSign (s.dropWhile isBlank)).1 = negative ∧
      (plainRun digitValue? (takeSign (s.dropWhile isBlank)).2).1 = ds := by
  obtain ⟨blank, signed, digits, nonempty, longest⟩ := h
  rename_i blanks sign run rest
  have hrun := plainRun_append digits longest
  -- the digits are not nothing, so there is a first one, which is neither a blank nor a sign
  obtain ⟨d, ds, rfl⟩ := List.exists_cons_of_ne_nil nonempty
  obtain ⟨c, run, rfl⟩ : ∃ c run', run = c :: run' := by
    cases run with
    | nil => exact absurd digits (by simp)
    | cons c run => exact ⟨c, run, rfl⟩
  have hdigit : digitValue? c = some d := (List.cons.inj digits).1
  rw [List.dropWhile_append_of_pos blank]
  cases signed with
  | absent =>
    have hdrop : ((c :: run) ++ rest).dropWhile isBlank = c :: (run ++ rest) :=
      List.dropWhile_cons_of_neg (by simp [isBlank_of_digitValue? hdigit])
    rw [List.nil_append, hdrop, takeSign_digit hdigit]
    exact ⟨rfl, congrArg Prod.fst hrun⟩
  | plus => exact ⟨rfl, congrArg Prod.fst hrun⟩
  | minus => exact ⟨rfl, congrArg Prod.fst hrun⟩

/-- **A text begins with one integer at most.** -/
theorem begins_unique {s : List Char} {negative negative' : Bool} {ds ds' : List Nat}
    (h : Begins s negative ds) (h' : Begins s negative' ds') : negative = negative' ∧ ds = ds' :=
  ⟨h.found.1.symm.trans h'.found.1, h.found.2.symm.trans h'.found.2⟩

/-- Where the reader finds digits, a text begins with an integer. -/
theorem begins_of_found {s : List Char}
    (h : (plainRun digitValue? (takeSign (s.dropWhile isBlank)).2).1 ≠ []) :
    Begins s (takeSign (s.dropWhile isBlank)).1
      (plainRun digitValue? (takeSign (s.dropWhile isBlank)).2).1 := by
  obtain ⟨sign, hsign, hsigned⟩ := takeSign_split (s.dropWhile isBlank)
  obtain ⟨run, hrun, hdigits, hlongest⟩ :=
    plainRun_split digitValue? (takeSign (s.dropWhile isBlank)).2
  have hs : s = s.takeWhile isBlank ++ (sign ++ (run ++
      (plainRun digitValue? (takeSign (s.dropWhile isBlank)).2).2)) := by
    rw [← hrun, ← hsign, List.takeWhile_append_dropWhile]
  have hblank : ∀ c ∈ s.takeWhile isBlank, isBlank c = true :=
    List.all_eq_true.mp List.all_takeWhile
  have hbegins := Begins.of hblank hsigned hdigits h hlongest
  rwa [← hs] at hbegins

variable {text : String} {n : Int}

/-- **What is read where a text begins with an integer**: the integer, within the limit. -/
theorem leading_of_begins {negative : Bool} {ds : List Nat} (h : Begins text.toList negative ds) :
    leading text = (withinLimit negative ds).map some := by
  obtain ⟨hnegative, hds⟩ := h.found
  obtain ⟨d, ds, rfl⟩ := List.exists_cons_of_ne_nil h.ne_nil
  rw [leading]
  simp only [hds, hnegative]

/-- **Where a text begins with no integer, none is read.** -/
theorem leading_of_not_begins (h : ∀ negative ds, ¬ Begins text.toList negative ds) :
    leading text = .ok none := by
  have hnone : (plainRun digitValue? (takeSign (text.toList.dropWhile isBlank)).2).1 = [] := by
    by_contra hfound
    exact h _ _ (begins_of_found hfound)
  rw [leading]
  simp only [hnone]

/-- A text that is not overlong is read as the integer that it begins with. -/
theorem leading_of_leads (h : Leads text n) (fits : ¬ Overlong text) :
    leading text = .ok (some n) := by
  obtain ⟨negative, ds, hbegins, rfl⟩ := h
  have hle : ¬ digitLimit < ds.length := fun hlt => fits ⟨negative, ds, hbegins, hlt⟩
  rw [leading_of_begins hbegins, withinLimit, if_neg hle]
  rfl

theorem leading_of_not_leads (h : ∀ n, ¬ Leads text n) : leading text = .ok none :=
  leading_of_not_begins fun negative ds hbegins => h _ ⟨negative, ds, hbegins, rfl⟩

/-- An overlong text is refused. -/
theorem leading_of_overlong (h : Overlong text) : ∃ flaw, leading text = .error flaw := by
  obtain ⟨negative, ds, hbegins, hlt⟩ := h
  refine ⟨.tooLong ds.length, ?_⟩
  rw [leading_of_begins hbegins, withinLimit, if_pos hlt]
  rfl

/-- An overlong text is not empty. -/
theorem Overlong.ne_empty (h : Overlong text) : text ≠ "" := by
  rintro rfl
  obtain ⟨negative, ds, hbegins, -⟩ := h
  exact hbegins.ne_nil hbegins.found.2.symm

/-- A text that begins with few digits is not overlong. -/
theorem Begins.not_overlong {negative : Bool} {ds : List Nat} (h : Begins text.toList negative ds)
    (few : ds.length ≤ digitLimit) : ¬ Overlong text := by
  rintro ⟨negative', ds', hbegins, hlt⟩
  obtain ⟨-, rfl⟩ := begins_unique h hbegins
  omega

/-- What a text leads with is one integer. -/
theorem Leads.unique {m : Int} (h : Leads text n) (h' : Leads text m) : n = m := by
  obtain ⟨negative, ds, hbegins, rfl⟩ := h
  obtain ⟨negative', ds', hbegins', rfl⟩ := h'
  obtain ⟨rfl, rfl⟩ := begins_unique hbegins hbegins'
  rfl

/-! ## 5. Numerals in front of a text -/

theorem map_digitValue?_renderNat (k : Nat) :
    (renderNat k).map digitValue? = (digits k).map some := by
  rw [renderNat, List.map_map]
  exact List.map_congr_left fun d hd => digitValue?_digitChar (digits_lt hd)

/-- **A text begins with the integer whose numeral stands in front**, if no digit follows it. -/
theorem begins_render (n : Int) {rest : List Char}
    (stop : ∀ c ∈ rest.head?, digitValue? c = none) :
    Begins (render n ++ rest) (decide (n < 0)) (digits n.natAbs) := by
  have hblank : ∀ c ∈ ([] : List Char), isBlank c = true := fun c hc => absurd hc (by simp)
  cases n with
  | ofNat k =>
    have hpositive : decide (Int.ofNat k < 0) = false :=
      decide_eq_false (Int.not_lt.mpr (Int.natCast_nonneg k))
    rw [hpositive]
    exact Begins.of hblank .absent (map_digitValue?_renderNat k) (digits_ne_nil k) stop
  | negSucc k =>
    have hnegative : decide (Int.negSucc k < 0) = true := decide_eq_true (Int.negSucc_lt_zero k)
    rw [hnegative]
    exact Begins.of hblank .minus (map_digitValue?_renderNat (k + 1)) (digits_ne_nil (k + 1)) stop

/-- An integer is its sign and its digits. -/
theorem signed_natAbs (n : Int) : signed (decide (n < 0)) (digits n.natAbs) = n := by
  rw [signed_digits]
  by_cases hn : n < 0
  · rw [if_pos (decide_eq_true hn)]
    omega
  · rw [if_neg (by simpa using hn)]
    omega

/-- **A numeral that is short enough is read off the front of a text**, whatever follows it but a
digit. -/
theorem leading_text_append {rest : String} (h : Short n)
    (stop : ∀ c ∈ rest.toList.head?, digitValue? c = none) :
    leading (Numeral.text n ++ rest) = .ok (some n) := by
  have hbegins : Begins (Numeral.text n ++ rest).toList (decide (n < 0)) (digits n.natAbs) := by
    rw [String.toList_append, Numeral.text, String.toList_ofList]
    exact begins_render n stop
  exact leading_of_leads ⟨_, _, hbegins, (signed_natAbs n).symm⟩ (hbegins.not_overlong h)

/-- A numeral that is short enough is the integer that its text begins with. -/
theorem leading_text (h : Short n) : leading (Numeral.text n) = .ok (some n) := by
  have hread : leading (Numeral.text n ++ "") = .ok (some n) :=
    leading_text_append h fun c hc => absurd hc (by simp)
  rwa [String.append_empty] at hread

/-- A numeral that is too long is overlong as a text. -/
theorem overlong_text (h : ¬ Short n) : Overlong (Numeral.text n) := by
  have hbegins : Begins (render n ++ []) (decide (n < 0)) (digits n.natAbs) :=
    begins_render n fun c hc => absurd hc (by simp)
  rw [List.append_nil] at hbegins
  refine ⟨decide (n < 0), digits n.natAbs, ?_, Nat.lt_of_not_le h⟩
  rwa [Numeral.text, String.toList_ofList]

/-! ## 6. What is read, and when -/

/-- A text begins with an integer, whose digits are held against the limit, or with none. -/
theorem leading_cases (text : String) :
    (∃ negative ds, Begins text.toList negative ds ∧
        leading text = (withinLimit negative ds).map some) ∨
      ((∀ negative ds, ¬ Begins text.toList negative ds) ∧ leading text = .ok none) := by
  by_cases hbegins : ∃ negative ds, Begins text.toList negative ds
  · obtain ⟨negative, ds, hbegins⟩ := hbegins
    exact .inl ⟨negative, ds, hbegins, leading_of_begins hbegins⟩
  · have hnone : ∀ negative ds, ¬ Begins text.toList negative ds :=
      fun negative ds h => hbegins ⟨negative, ds, h⟩
    exact .inr ⟨hnone, leading_of_not_begins hnone⟩

/-- A value is read where a text begins with the digits of that value, and not with too many. -/
theorem leading_eq_some_iff : leading text = .ok (some n) ↔
    ∃ negative ds, Begins text.toList negative ds ∧ ds.length ≤ digitLimit ∧
      n = signed negative ds := by
  constructor
  · intro h
    rcases leading_cases text with ⟨negative, ds, hbegins, hread⟩ | ⟨-, hread⟩
    · rw [hread, withinLimit] at h
      split at h
      · exact absurd h (by simp [Except.map])
      · next hle =>
        have hn : signed negative ds = n := Option.some.inj (Except.ok.inj h)
        exact ⟨negative, ds, hbegins, Nat.not_lt.mp hle, hn.symm⟩
    · exact absurd (hread.symm.trans h) (by simp)
  · rintro ⟨negative, ds, hbegins, hle, rfl⟩
    exact leading_of_leads ⟨negative, ds, hbegins, rfl⟩ (hbegins.not_overlong hle)

/-- Reading fails where a text begins with too many digits, and there only. -/
theorem leading_eq_error_iff {flaw : Flaw} : leading text = .error flaw ↔
    ∃ negative ds, Begins text.toList negative ds ∧ digitLimit < ds.length ∧
      flaw = .tooLong ds.length := by
  constructor
  · intro h
    rcases leading_cases text with ⟨negative, ds, hbegins, hread⟩ | ⟨-, hread⟩
    · rw [hread, withinLimit] at h
      split at h
      · next hlt => exact ⟨negative, ds, hbegins, hlt, (Except.error.inj h).symm⟩
      · exact absurd h (by simp [Except.map])
    · exact absurd (hread.symm.trans h) (by simp)
  · rintro ⟨negative, ds, hbegins, hlt, rfl⟩
    rw [leading_of_begins hbegins, withinLimit, if_pos hlt]
    rfl

/-- Nothing is read where a text begins with no integer, and there only. -/
theorem leading_eq_none_iff :
    leading text = .ok none ↔ ∀ negative ds, ¬ Begins text.toList negative ds := by
  refine ⟨fun h negative ds hbegins => ?_, leading_of_not_begins⟩
  rw [leading_of_begins hbegins, withinLimit] at h
  split at h
  · exact absurd h (by simp [Except.map])
  · exact absurd (Except.ok.inj h) (by simp)

/-- **Reading is exact.**  A value is read if and only if a text begins with an integer of no more
digits than a numeral may have, and it is the value of that integer; reading fails if and only if
the integer has more digits; where there is no integer, none is read.  So a number is read off the
front of every text that its numeral starts, unless a digit follows the numeral. -/
theorem leading_exact :
    (∀ text : String,
      (∀ n, leading text = .ok (some n) ↔
        ∃ negative ds, Begins text.toList negative ds ∧ ds.length ≤ digitLimit ∧
          n = signed negative ds) ∧
      (∀ flaw, leading text = .error flaw ↔
        ∃ negative ds, Begins text.toList negative ds ∧ digitLimit < ds.length ∧
          flaw = .tooLong ds.length) ∧
      (leading text = .ok none ↔ ∀ negative ds, ¬ Begins text.toList negative ds)) ∧
    ∀ (n : Int) (rest : String), Short n → (∀ c ∈ rest.toList.head?, digitValue? c = none) →
      leading (Numeral.text n ++ rest) = .ok (some n) :=
  ⟨fun _ => ⟨fun _ => leading_eq_some_iff, fun _ => leading_eq_error_iff, leading_eq_none_iff⟩,
    fun _ _ short stop => leading_text_append short stop⟩

/-- A number in front of an underscore; digits of two scripts behind a blank that is no ASCII
character; one digit too many; and a sign that a blank follows. -/
theorem leading_exact_cases :
    (Short (-12) ∧ (∀ c ∈ "_3".toList.head?, digitValue? c = none) ∧
      leading (Numeral.text (-12) ++ "_3") = .ok (some (-12))) ∧
    leading "\u00a0+1२ 3" = .ok (some 12) ∧
    leading (String.ofList (List.replicate (digitLimit + 1) '0')) =
      .error (.tooLong (digitLimit + 1)) ∧
    leading "- 7" = .ok none := by
  have hshort : Short (-12) := short_of_lt (by decide)
  have hstop : ∀ c ∈ "_3".toList.head?, digitValue? c = none := by
    rintro c ⟨⟩
    decide
  have hzeros : Begins (String.ofList (List.replicate (digitLimit + 1) '0')).toList false
      (List.replicate (digitLimit + 1) 0) := by
    rw [String.toList_ofList]
    have hdigits : (List.replicate (digitLimit + 1) '0').map digitValue? =
        (List.replicate (digitLimit + 1) 0).map some := by
      rw [List.map_replicate, List.map_replicate]
      rfl
    have h := Begins.of (fun c (hc : c ∈ []) => absurd hc List.not_mem_nil) .absent hdigits
      (List.cons_ne_nil _ _) (fun c (hc : c ∈ [].head?) => absurd hc (by simp))
    rwa [List.append_nil] at h
  refine ⟨⟨hshort, hstop, leading_exact.2 (-12) "_3" hshort hstop⟩, ?_, ?_, ?_⟩
  · refine ((leading_exact.1 _).1 12).mpr ⟨false, [1, 2], ?_, by decide, by decide⟩
    show Begins (['\u00a0'] ++ (['+'] ++ (['1', '२'] ++ [' ', '3']))) false [1, 2]
    refine Begins.of (List.forall_mem_singleton.mpr (by decide)) .plus (by decide) (by decide) ?_
    rintro c ⟨⟩
    decide
  · refine ((leading_exact.1 _).2.1 _).mpr ⟨false, _, hzeros, ?_, ?_⟩
    · rw [List.length_replicate]
      exact Nat.lt_succ_self digitLimit
    · rw [List.length_replicate]
  · exact (leading_exact.1 _).2.2.mpr fun negative ds h => h.ne_nil h.found.2.symm

end Critique.Numeral
