/-
# Lines without a numeral

A line is named by its numeral, and a number of more than 4300 digits has none.  A group of two to
five findings names all of its lines, so one such line is enough for the group not to be merged
(`Unmergeable`), and one such group for nothing to be shown (`Unwritable`).  This is the only cause:
a finding that stands alone names no line, and neither does a group of more than five.

* `suffix_of_short` and `suffix_of_long`: whether the lines of a group can be named;
* `merge_of_not` and `merge_of_unmergeable`: whether a group can be merged;
* `group_eq_ok_iff` and `group_eq_error_iff`: what grouping gives, and when it gives nothing;
* `group_eq_self_iff`: findings without repeated keys are left as they are.
-/
import Critique.Proofs.Grouping
import Critique.Proofs.Text.Numeral

namespace Critique.Grouping

/-! ## 1. Steps that may fail -/

section MapM

variable {α β ε : Type} {f : α → Except ε β} {xs : List α}

theorem mapM_of_ok {g : α → β} (h : ∀ x ∈ xs, f x = .ok (g x)) : xs.mapM f = .ok (xs.map g) := by
  induction xs with
  | nil => rfl
  | cons x xs ih =>
    rw [List.forall_mem_cons] at h
    rw [List.mapM_cons, h.1, ih h.2]
    rfl

/-- Where all steps that fail have the same cause, it is the cause of the whole. -/
theorem mapM_of_error {e : ε} (each : ∀ x ∈ xs, (∃ y, f x = .ok y) ∨ f x = .error e)
    (fails : ∃ x ∈ xs, f x = .error e) : xs.mapM f = .error e := by
  induction xs with
  | nil => exact absurd fails (by simp)
  | cons x xs ih =>
    rw [List.forall_mem_cons] at each
    rw [List.mapM_cons]
    rcases each.1 with ⟨y, hy⟩ | hx
    · obtain ⟨z, hz, hfail⟩ := fails
      rcases List.mem_cons.mp hz with rfl | hz
      · exact absurd (hy.symm.trans hfail) (by simp)
      · rw [hy, ih each.2 ⟨z, hz, hfail⟩]
        rfl
    · rw [hx]
      rfl

end MapM

/-! ## 2. One group -/

theorem mem_named {lines : List Nat} {n : Nat} :
    n ∈ named lines ↔ lines.length ≤ 5 ∧ n ∈ lines := by
  unfold named
  split
  · next few => simp [few]
  · next many => simp [many]

/-- Lines that have numerals are named by them. -/
theorem suffix_of_short {lines : List Nat} (h : ∀ n ∈ named lines, Numeral.Short n) :
    suffix lines = .ok (remark lines) := by
  rw [suffix, mapM_of_ok fun n hn => Numeral.writtenWithin_of_le (h n hn)]
  rfl

/-- A line that has none cannot be named. -/
theorem suffix_of_long {lines : List Nat} (h : ∃ n ∈ named lines, ¬ Numeral.Short n) :
    suffix lines = .error .unwritable := by
  have each : ∀ n ∈ named lines, (∃ name, Numeral.writtenWithin n = .ok name) ∨
      Numeral.writtenWithin n = .error .unwritable := by
    intro n _
    by_cases hn : Numeral.Short n
    · exact .inl ⟨_, Numeral.writtenWithin_of_le hn⟩
    · exact .inr (Numeral.writtenWithin_of_long hn)
  obtain ⟨n, hn, hlong⟩ := h
  rw [suffix, mapM_of_error each ⟨n, hn, Numeral.writtenWithin_of_long hlong⟩]
  rfl

/-- Two to five findings, one of them on a line without a numeral. -/
def Unmergeable (similar : List Finding) : Prop :=
  2 ≤ similar.length ∧ similar.length ≤ 5 ∧ ∃ f ∈ similar, ¬ Numeral.Short f.line

instance (similar : List Finding) : Decidable (Unmergeable similar) :=
  inferInstanceAs (Decidable (_ ∧ _))

theorem mem_sortedLines {similar : List Finding} {n : Nat} :
    n ∈ sortedLines similar ↔ ∃ f ∈ similar, f.line = n := by
  rw [sortedLines, List.mem_mergeSort, List.mem_map]

theorem length_sortedLines (similar : List Finding) :
    (sortedLines similar).length = similar.length := by
  rw [sortedLines, List.length_mergeSort, List.length_map]

theorem merge_of_not : ∀ {similar : List Finding}, ¬ Unmergeable similar →
    merge similar = .ok (shownOf? similar)
  | [], _ | [_], _ => rfl
  | f :: g :: rest, h => by
    have hshort : ∀ n ∈ named (sortedLines (f :: g :: rest)), Numeral.Short n := by
      intro n hn
      rw [mem_named, length_sortedLines, mem_sortedLines] at hn
      obtain ⟨few, x, hx, rfl⟩ := hn
      by_contra hlong
      exact h ⟨by simp, few, x, hx, hlong⟩
    rw [merge, suffix_of_short hshort]
    · rfl
    · simp

theorem merge_of_unmergeable : ∀ {similar : List Finding}, Unmergeable similar →
    merge similar = .error .unwritable
  | [], h | [_], h => absurd h.1 (by simp)
  | f :: g :: rest, ⟨_, few, x, hx, hlong⟩ => by
    have hline : x.line ∈ named (sortedLines (f :: g :: rest)) := by
      rw [mem_named, length_sortedLines, mem_sortedLines]
      exact ⟨few, x, hx, rfl⟩
    rw [merge, suffix_of_long ⟨_, hline, hlong⟩]
    · rfl
    · simp

/-! ## 3. All groups -/

/-- The findings of some key cannot be merged. -/
def Unwritable (fs : List Finding) : Prop :=
  ∃ f ∈ fs, Unmergeable (ofKey f.key fs)

instance (fs : List Finding) : Decidable (Unwritable fs) :=
  inferInstanceAs (Decidable (∃ f ∈ fs, _))

/-- The groups are the findings of the keys that are seen. -/
theorem mem_gather {fs similar : List Finding} :
    similar ∈ gather fs ↔ ∃ f ∈ fs, similar = ofKey f.key fs := by
  rw [gather_eq, List.mem_map]
  constructor
  · rintro ⟨f, hf, rfl⟩
    exact ⟨f, (firsts_sublist fs).subset hf, rfl⟩
  · rintro ⟨f, hf, rfl⟩
    -- the first finding of the key leads the group
    obtain ⟨first, hfirst⟩ := Option.isSome_iff_exists.mp
      (List.isSome_head?.mpr (ofKey_ne_nil hf))
    have hkey : first.key = f.key := by
      simpa using (List.mem_filter.mp (List.mem_of_head? hfirst)).2
    exact ⟨first, mem_firsts.mpr (hkey ▸ hfirst), by rw [hkey]⟩

theorem group_eq_shown {fs : List Finding} (h : ¬ Unwritable fs) : group fs = .ok (shown fs) := by
  have hmerge : ∀ similar ∈ gather fs, merge similar = .ok (shownOf? similar) := by
    intro similar hsimilar
    obtain ⟨f, hf, rfl⟩ := mem_gather.mp hsimilar
    exact merge_of_not fun hunmergeable => h ⟨f, hf, hunmergeable⟩
  have hshown : ((gather fs).map shownOf?).filterMap id = shown fs := List.filterMap_map
  rw [group, mapM_of_ok hmerge, ← hshown]
  rfl

theorem group_eq_error {fs : List Finding} (h : Unwritable fs) :
    group fs = .error .unwritable := by
  have each : ∀ similar ∈ gather fs, (∃ e, merge similar = .ok e) ∨
      merge similar = .error .unwritable := by
    intro similar _
    by_cases hunmergeable : Unmergeable similar
    · exact .inr (merge_of_unmergeable hunmergeable)
    · exact .inl ⟨_, merge_of_not hunmergeable⟩
  obtain ⟨f, hf, hunmergeable⟩ := h
  rw [group, mapM_of_error each
    ⟨_, mem_gather.mpr ⟨f, hf, rfl⟩, merge_of_unmergeable hunmergeable⟩]
  rfl

/-- **What grouping gives** is what is shown, unless a line that is to be named has no numeral. -/
theorem group_eq_ok_iff {fs gs : List Finding} :
    group fs = .ok gs ↔ ¬ Unwritable fs ∧ shown fs = gs := by
  by_cases h : Unwritable fs
  · simp [group_eq_error h, h]
  · simp [group_eq_shown h, h]

/-- **Grouping gives nothing** exactly if such a line is to be named. -/
theorem group_eq_error_iff {fs : List Finding} :
    group fs = .error .unwritable ↔ Unwritable fs := by
  by_cases h : Unwritable fs
  · simp [group_eq_error h, h]
  · simp [group_eq_shown h, h]

/-- Two findings that say the same, on the first line and on a line that has no numeral. -/
def farApart : List Finding :=
  [⟨.warning, .low, 1, "Mend", "Style"⟩, ⟨.warning, .low, 10 ^ 4300, "Mend", "Style"⟩]

theorem unwritable_farApart : Unwritable farApart := by
  have hkey : ofKey ("Mend", "Style") farApart = farApart := rfl
  have hline : ¬ Numeral.Short ((10 ^ 4300 : Nat) : Int) := Numeral.not_short_pow (by decide)
  have hlength : farApart.length = 2 := rfl
  refine ⟨⟨.warning, .low, 1, "Mend", "Style"⟩, List.mem_cons_self, ?_⟩
  change Unmergeable (ofKey ("Mend", "Style") farApart)
  rw [hkey]
  exact ⟨hlength.ge, hlength.le.trans (by decide), _,
    List.mem_cons_of_mem _ List.mem_cons_self, hline⟩

/-! ## 4. Where nothing is refused -/

theorem not_unwritable_of_short {fs : List Finding} (h : ∀ f ∈ fs, Numeral.Short f.line) :
    ¬ Unwritable fs := by
  rintro ⟨f, -, -, -, g, hg, hlong⟩
  exact hlong (h g (List.mem_of_mem_filter hg))

theorem not_unwritable_of_nodup {fs : List Finding} (h : (fs.map Finding.key).Nodup) :
    ¬ Unwritable fs := by
  rintro ⟨f, hf, hmany, -⟩
  rw [ofKey_of_nodup h hf] at hmany
  exact absurd hmany (by simp)

/-- **Grouping leaves alone the findings without repeated keys**, and no others. -/
theorem group_eq_self_iff {fs : List Finding} :
    group fs = .ok fs ↔ (fs.map Finding.key).Nodup := by
  rw [group_eq_ok_iff, shown_eq_self_iff]
  exact ⟨And.right, fun h => ⟨not_unwritable_of_nodup h, h⟩⟩

end Critique.Grouping
