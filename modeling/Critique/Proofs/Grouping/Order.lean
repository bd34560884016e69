/-
# Where repeats stand does not matter

A group is shown by its first finding and by the lines of all, and the lines are sorted before they
are shown.  So what is shown of a group hangs on its first finding and on which findings there are,
but not on their order (`merge_congr`).

Two lists with the same findings in another order have the same findings of each key in another
order (`ofKey_perm`).  If moreover the first findings of their keys are the same and come in the same
order, their groups are led by the same findings and come in the same order, and all that is left to
differ is where the repeats stand.

Whether a group can be merged hangs on nothing else either, so where the one list is refused, the
other is refused for the same cause.

* `sortedLines_congr`: the lines that are shown do not depend on order;
* `merge_congr`: nor does what comes of a group, its first finding apart;
* `group_congr`: lists that differ only in where repeats stand are grouped alike.
-/
import Critique.Proofs.Grouping.Entries

namespace Critique.Grouping

/-! ## 1. One group -/

/-- **The lines that are shown** do not depend on the order of the findings. -/
theorem sortedLines_congr {similar other : List Finding} (h : similar.Perm other) :
    sortedLines similar = sortedLines other := by
  have hperm : (sortedLines similar).Perm (sortedLines other) :=
    ((sortedLines_perm similar).trans (h.map _)).trans (sortedLines_perm other).symm
  exact hperm.eq_of_pairwise (fun _ _ _ _ => Nat.le_antisymm) (pairwise_sortedLines similar)
    (pairwise_sortedLines other)

/-- **What comes of a group** depends on the first finding, but not on the order of the rest. -/
theorem merge_congr {f : Finding} {rest rest' : List Finding} (h : rest.Perm rest') :
    merge (f :: rest) = merge (f :: rest') := by
  have hlines : sortedLines (f :: rest) = sortedLines (f :: rest') := sortedLines_congr (h.cons f)
  cases rest with
  | nil =>
    rw [h.nil_eq]
  | cons g rest =>
    cases rest' with
    | nil => exact absurd h.eq_nil (List.cons_ne_nil g rest)
    | cons g' rest' =>
      rw [merge, merge, hlines]
      · exact List.cons_ne_nil g' rest'
      · exact List.cons_ne_nil g rest

/-! ## 2. All groups -/

/-- What comes of the groups one by one is all that grouping depends on. -/
theorem group_eq_of_map_merge {fs gs : List Finding}
    (h : (gather fs).map merge = (gather gs).map merge) : group fs = group gs := by
  have hgroup : ∀ fs, group fs = ((gather fs).map merge).mapM id >>= fun entries =>
      pure (entries.filterMap id) := by
    intro fs
    rw [List.mapM_map]
    rfl
  rw [hgroup, hgroup, h]

/-- The findings of a key do not depend on the order of the others. -/
theorem ofKey_perm {fs gs : List Finding} (h : gs.Perm fs) (key : String × String) :
    (ofKey key gs).Perm (ofKey key fs) :=
  h.filter _

/-- A first finding leads the findings of its key. -/
theorem exists_ofKey_eq_cons {fs : List Finding} {f : Finding} (h : f ∈ firsts fs) :
    ∃ rest, ofKey f.key fs = f :: rest :=
  List.head?_eq_some_iff.mp (mem_firsts.mp h)

/-- **Where repeats stand does not matter.**  Two lists with the same findings, in which the same
findings are the first of their keys and are first seen in the same order, are grouped alike: they
give the same entries, or are both refused for the same cause. -/
theorem group_congr {fs gs : List Finding} (same : gs.Perm fs) (leading : firsts fs = firsts gs) :
    group fs = group gs := by
  refine group_eq_of_map_merge ?_
  rw [gather_eq, gather_eq, ← leading, List.map_map, List.map_map]
  -- the groups are led by the same findings in the same order, so they are compared one by one
  refine List.map_congr_left fun f hf => ?_
  obtain ⟨rest, hrest⟩ := exists_ofKey_eq_cons hf
  obtain ⟨rest', hrest'⟩ := exists_ofKey_eq_cons (leading ▸ hf)
  have hperm := ofKey_perm same f.key
  rw [hrest, hrest', List.perm_cons] at hperm
  rw [Function.comp_apply, Function.comp_apply, hrest, hrest']
  exact merge_congr hperm.symm

/-- Two keys with repeats of different kinds, which change their places and mix. -/
theorem group_congr_of_two :
    let f : Finding := ⟨.warning, .low, 4, "Mend", "Style"⟩
    let g : Finding := ⟨.error, .high, 7, "Trust", "Safety"⟩
    let fs := [f, { f with line := 9 }, g, { f with kind := .error, line := 2 }, { g with line := 1 }]
    let gs := [f, g, { g with line := 1 }, { f with kind := .error, line := 2 }, { f with line := 9 }]
    gs.Perm fs ∧ firsts fs = firsts gs ∧ fs ≠ gs ∧ group fs = group gs :=
  ⟨by decide, by decide, by decide, group_congr (by decide) (by decide)⟩

end Critique.Grouping
