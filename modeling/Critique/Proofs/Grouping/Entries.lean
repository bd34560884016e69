/-
# The entries of a grouping

A list of findings is grouped into entries, one for each key, in the order in which the keys were
first seen, as long as all lines that are to be named have numerals.  What an entry has to be is said
here without the pass that makes it (`StandsFor`): it takes kind, severity and category from the
first finding of its key and the smallest of their lines, its message goes on to name their lines in
ascending order, repeated ones repeated, and where there is but one finding of the key, that finding
is the entry.

The keys come from the pass that collects the first finding of each (`keys_firsts`), and an entry
from the findings of one key only (`shownOf?_standsFor`), so the two are looked at apart and put
together item by item.

* `keys_firsts`: the keys, each in the place where it was first seen;
* `shownOf?_standsFor`: what is shown of a group stands for it;
* `kinds_shown` and `length_shown`: of which kinds the entries are, and how many there are;
* `length_groups`: the groups hold as many findings as there are;
* `group_entries`: the entries of a grouping, one for each key.
-/
import Critique.Proofs.Grouping.Refusal
import Mathlib.Algebra.GroupWithZero.Nat
import Mathlib.Data.List.Forall2

namespace Critique.Grouping

/-! ## 1. Keys -/

/-- **The keys of the first findings** are the keys without repetition, each in the place where it
was first seen. -/
theorem keys_firsts : ∀ fs : List Finding,
    (firsts fs).map Finding.key = (fs.map Finding.key).eraseDups
  | [] => rfl
  | f :: fs => by
    have ih := keys_firsts (fs.filter fun g => g.key ≠ f.key)
    have hfirsts := firsts_filter (fun key => decide (key ≠ f.key)) fs
    have hkeys : (fs.map Finding.key).filter (fun key => !key == f.key) =
        (fs.filter fun g => g.key ≠ f.key).map Finding.key := by
      rw [List.filter_map]
      congr 1
      refine List.filter_congr fun g _ => ?_
      simp [beq_eq_decide]
    rw [firsts, List.map_cons, List.map_cons, List.eraseDups_cons, hkeys, ← ih, hfirsts]
termination_by fs => fs.length
decreasing_by exact Nat.lt_succ_of_le (List.length_filter_le _ _)

/-! ## 2. What stands for a group -/

/-- An entry stands for findings that say the same. -/
structure StandsFor (similar : List Finding) (e : Finding) : Prop where
  /-- The first finding lends all but the line, and its message begins that of the entry; behind it
  the lines of all findings are named in ascending order. -/
  lead : ∃ f lines, similar.head? = some f ∧ e.kind = f.kind ∧ e.severity = f.severity ∧
    e.category = f.category ∧ lines.Perm (similar.map Finding.line) ∧ lines.Pairwise (· ≤ ·) ∧
    e.message = f.message ++ note lines
  /-- The entry stands on the smallest line. -/
  line : (similar.map Finding.line).min? = some e.line
  /-- A finding that stands alone is left as it is. -/
  alone : ∀ f, similar = [f] → e = f

theorem sortedLines_perm (similar : List Finding) :
    (sortedLines similar).Perm (similar.map Finding.line) :=
  List.mergeSort_perm _ _

theorem pairwise_sortedLines (similar : List Finding) :
    (sortedLines similar).Pairwise (· ≤ ·) := by
  have hsorted : (sortedLines similar).Pairwise fun m n => decide (m ≤ n) = true :=
    List.pairwise_mergeSort (by simpa using fun _ _ _ => Nat.le_trans)
      (by simpa using Nat.le_total) _
  exact hsorted.imp of_decide_eq_true

/-- The first of the sorted lines is the smallest. -/
theorem min?_of_sortedLines {similar : List Finding} {n : Nat} {rest : List Nat}
    (h : sortedLines similar = n :: rest) : (similar.map Finding.line).min? = some n := by
  have hperm := h ▸ sortedLines_perm similar
  have hsorted := List.pairwise_cons.mp (h ▸ pairwise_sortedLines similar)
  refine List.min?_eq_some_iff.mpr ⟨hperm.subset List.mem_cons_self, fun m hm => ?_⟩
  rcases List.mem_cons.mp (hperm.symm.subset hm) with rfl | hrest
  · exact Nat.le_refl _
  · exact hsorted.1 m hrest

/-- **What is shown of a group stands for it.** -/
theorem shownOf?_standsFor : ∀ {similar : List Finding}, similar ≠ [] →
    ∃ e, shownOf? similar = some e ∧ StandsFor similar e
  | [f], _ => by
    refine ⟨f, rfl, ⟨f, [f.line], rfl, rfl, rfl, rfl, List.Perm.refl _, List.pairwise_singleton _ _,
      String.append_empty.symm⟩, rfl, fun g hg => (List.cons.inj hg).1⟩
  | f :: g :: rest, _ => by
    have hlength : (sortedLines (f :: g :: rest)).length = rest.length + 2 := by
      simp [sortedLines]
    obtain ⟨n, lines, hlines⟩ := List.exists_cons_of_length_pos
      (show 0 < (sortedLines (f :: g :: rest)).length by omega)
    refine ⟨_, rfl, ⟨f, _, rfl, rfl, rfl, rfl, sortedLines_perm _, pairwise_sortedLines _, ?_⟩, ?_,
      fun other hother => absurd hother (by simp)⟩
    · rw [← remark_eq_note (by omega)]
      rfl
    · rw [min?_of_sortedLines hlines, hlines]
      rfl

/-! ## 3. The entries -/

/-- **The kinds that are shown** are those of the first finding of each key. -/
theorem kinds_shown (fs : List Finding) :
    (shown fs).map Finding.kind = (firsts fs).map Finding.kind := by
  have hkind : ∀ f ∈ firsts fs, (shownOf? (ofKey f.key fs)).map Finding.kind = some f.kind := by
    intro f hf
    obtain ⟨e, hentry, hstands⟩ := shownOf?_standsFor (ofKey_ne_nil ((firsts_sublist fs).subset hf))
    obtain ⟨g, -, hhead, hkind, -⟩ := hstands.lead
    rw [mem_firsts, hhead, Option.some_inj] at hf
    rw [hentry, Option.map_some, hkind, hf]
  rw [shown_eq, List.map_filterMap, List.filterMap_congr hkind]
  exact congrFun List.filterMap_eq_map' _

/-- One finding is shown for each key. -/
theorem length_shown (fs : List Finding) :
    (shown fs).length = (fs.map Finding.key).eraseDups.length := by
  calc (shown fs).length = ((firsts fs).map Finding.kind).length := by
        rw [← kinds_shown, List.length_map]
    _ = ((firsts fs).map Finding.key).length := by rw [List.length_map, List.length_map]
    _ = (fs.map Finding.key).eraseDups.length := by rw [keys_firsts]

/-- Something is shown wherever there are findings. -/
theorem eq_nil_of_shown {fs : List Finding} (h : shown fs = []) : fs = [] := by
  cases fs with
  | nil => rfl
  | cons f fs =>
    have hkinds := kinds_shown (f :: fs)
    rw [h, firsts, List.map_cons] at hkinds
    exact absurd hkinds.symm (List.cons_ne_nil _ _)

/-- The groups hold as many findings as there are. -/
theorem length_groups (fs : List Finding) :
    ((fs.map Finding.key).eraseDups.map fun key => (ofKey key fs).length).sum = fs.length := by
  calc ((fs.map Finding.key).eraseDups.map fun key => (ofKey key fs).length).sum
      = ((gather fs).map List.length).sum := by
        rw [← keys_firsts, gather_eq, List.map_map, List.map_map]
        rfl
    _ = (gather fs).flatten.length := List.length_flatten.symm
    _ = fs.length := gather_flatten fs

/-- What is shown are entries, one for each key, that stand for the findings of it. -/
theorem shown_entries (fs : List Finding) :
    List.Forall₂ (fun key e => StandsFor (ofKey key fs) e) (fs.map Finding.key).eraseDups
      (shown fs) := by
  rw [← keys_firsts, shown_eq]
  have hmem : ∀ f ∈ firsts fs, f ∈ fs := fun f hf => (firsts_sublist fs).subset hf
  -- every first finding leads a group, so none of them is without its entry
  generalize firsts fs = leading at hmem
  induction leading with
  | nil => exact .nil
  | cons f rest ih =>
    rw [List.forall_mem_cons] at hmem
    obtain ⟨e, hentry, hstands⟩ := shownOf?_standsFor (ofKey_ne_nil hmem.1)
    have hentries : (f :: rest).filterMap (fun f => shownOf? (ofKey f.key fs)) =
        e :: rest.filterMap fun f => shownOf? (ofKey f.key fs) := List.filterMap_cons_some hentry
    rw [List.map_cons, hentries]
    exact .cons hstands (ih hmem.2)

/-- **The entries of a grouping.**  There is one for each key, in the order in which the keys were
first seen, and it stands for the findings of that key, unless some key has two to five findings and
one of their lines has no numeral: then there are no entries at all.  Taken together the entries
stand for as many findings as there are. -/
theorem group_entries (fs : List Finding) :
    ((∃ entries, group fs = .ok entries ∧ List.Forall₂ (fun key e => StandsFor (ofKey key fs) e)
        (fs.map Finding.key).eraseDups entries) ↔ ¬ Unwritable fs) ∧
    (group fs = .error .unwritable ↔ Unwritable fs) ∧
    ((fs.map Finding.key).eraseDups.map fun key => (ofKey key fs).length).sum = fs.length := by
  refine ⟨⟨?_, fun h => ?_⟩, group_eq_error_iff, length_groups fs⟩
  · rintro ⟨entries, hgroup, -⟩
    exact (group_eq_ok_iff.mp hgroup).1
  · exact ⟨shown fs, group_eq_shown h, shown_entries fs⟩

/-- Two findings on the first line and on a line far away have no entry. -/
theorem no_entries_farApart :
    ¬ ∃ entries, group farApart = .ok entries ∧
      List.Forall₂ (fun key e => StandsFor (ofKey key farApart) e)
        (farApart.map Finding.key).eraseDups entries := by
  rintro ⟨entries, hgroup, -⟩
  exact (group_eq_ok_iff.mp hgroup).1 unwritable_farApart

end Critique.Grouping
