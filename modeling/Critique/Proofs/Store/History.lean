/-
# The history of the store in memory

The store in memory keeps every record that was ever made, in the order in which the records were
made; the place of a record in this history is its number.  A run of any operations adds to the
history what it asks for and changes nothing that was there (`memory_run`).  So everything that the
store answers is said about one list: a number finds the record at its place, and a listing is the
newest part of the history, sorted.

Newer is first of all a matter of the clock, and the clock may do what it likes: it may stand still
or run backwards.  Between records of one time the number decides, so that of two records one is
always newer, and there is one way only to list them (`Listing.eq`).

* `memory_run`: what a run does to the store in memory;
* `listing_recent` and `Listing.eq`: a listing is the newest part of the records, and that is all
  that it can be;
* `memory_remembers`: the history of a run, and what the store tells of it.
-/
import Critique.Proofs.Store.Agreement
import Mathlib.Data.List.Perm.Subperm

namespace Critique

open Remote (Ledger)

/-! ## 1. Newer records -/

/-- Whether the first record is newer than the second: made at a later time, or at the same time
and with the greater number. -/
def Record.Newer (a b : Record) : Prop :=
  b.created.instant < a.created.instant ∨ (a.created.instant = b.created.instant ∧ b.id < a.id)

/-- Of two records, one at most is newer. -/
theorem Record.Newer.asymm {a b : Record} (h : a.Newer b) : ¬ b.Newer a := by
  unfold Record.Newer at h ⊢
  omega

/-- Of two records with different numbers, the one that comes first is newer. -/
theorem Record.Newer.of_later {a b : Record} (h : a.later b = true) (hne : a.id ≠ b.id) :
    a.Newer b := by
  rcases Record.later_iff.mp h with htime | ⟨htime, hid⟩
  · exact .inl htime
  · exact .inr ⟨htime, lt_of_le_of_ne hid hne.symm⟩

/-- Sorted records are in descending order, the newest first. -/
theorem pairwise_newer_mergeSort {records : List Record} (ids : (records.map Record.id).Nodup) :
    (records.mergeSort Record.later).Pairwise Record.Newer := by
  have hsorted := List.pairwise_mergeSort Record.later_trans Record.later_total records
  have hids : ((records.mergeSort Record.later).map Record.id).Nodup :=
    ((List.mergeSort_perm records Record.later).map Record.id).nodup_iff.mpr ids
  refine (hsorted.and (List.pairwise_map.mp hids)).imp ?_
  rintro a b ⟨hlater, hne⟩
  exact .of_later hlater hne

/-! ## 2. Listings -/

/-- The records that a limit shows, out of all that were made. -/
structure Listing (limit : Int) (made shown : List Record) : Prop where
  /-- the newest come first, and none comes twice -/
  sorted : shown.Pairwise Record.Newer
  /-- nothing is shown that was not made -/
  subset : ∀ r ∈ shown, r ∈ made
  /-- as many as the limit says, or all but as many as it says -/
  count : shown.length =
    if 0 ≤ limit then min limit.toNat made.length else made.length - limit.natAbs
  /-- what is left out is older than everything that is shown -/
  greatest : ∀ r ∈ shown, ∀ q ∈ made, q ∉ shown → r.Newer q

/-- **A listing is the newest part of the records**, however they are ordered in time. -/
theorem listing_recent {records : List Record} (ids : (records.map Record.id).Nodup)
    (limit : Int) : Listing limit records (Memory.recent ⟨records⟩ limit) := by
  have hsorted := pairwise_newer_mergeSort ids
  have hlength := length_slice limit (records.mergeSort Record.later)
  rw [List.length_mergeSort] at hlength
  constructor
  · rw [Memory.recent, slice_eq_take]
    exact hsorted.sublist (List.take_sublist _ _)
  · intro r hr
    exact List.mem_mergeSort.mp (mem_of_mem_slice hr)
  · exact hlength
  · intro r hr q hq hout
    rw [Memory.recent, slice_eq_take] at hr hout
    generalize (if 0 ≤ limit then limit.toNat
      else (records.mergeSort Record.later).length - limit.natAbs) = n at hr hout
    -- what is shown and what is left out are the two parts of one sorted list
    rw [← List.take_append_drop n (records.mergeSort Record.later)] at hsorted
    have hq' : q ∈ (records.mergeSort Record.later).drop n := by
      have hmem : q ∈ records.mergeSort Record.later := List.mem_mergeSort.mpr hq
      rw [← List.take_append_drop n (records.mergeSort Record.later), List.mem_append] at hmem
      exact hmem.resolve_left hout
    exact (List.pairwise_append.mp hsorted).2.2 r hr q hq'

theorem Listing.nodup {limit : Int} {made shown : List Record} (h : Listing limit made shown) :
    shown.Nodup := by
  refine h.sorted.imp fun hnewer heq => ?_
  subst heq
  exact hnewer.asymm hnewer

/-- What one listing shows, every listing shows. -/
theorem Listing.subset_of_listing {limit : Int} {made shown shown' : List Record}
    (h : Listing limit made shown) (h' : Listing limit made shown') : shown ⊆ shown' := by
  intro r hr
  by_contra hout
  -- the other listing is as long, so it shows something else instead, and that would be newer
  obtain ⟨q, hq, hqout⟩ : ∃ q ∈ shown', q ∉ shown := by
    by_contra hnone
    have hsubset : shown' ⊆ shown := fun q hq => by_contra fun hqout => hnone ⟨q, hq, hqout⟩
    have hlength : shown.length ≤ shown'.length := Nat.le_of_eq (h.count.trans h'.count.symm)
    have hperm := (List.subperm_of_subset h'.nodup hsubset).perm_of_length_le hlength
    exact hout (hperm.mem_iff.mpr hr)
  have hnewer := h.greatest r hr q (h'.subset q hq) hqout
  exact hnewer.asymm (h'.greatest q hq r (h.subset r hr) hout)

/-- **There is one way only to list records.** -/
theorem Listing.eq {limit : Int} {made shown shown' : List Record}
    (h : Listing limit made shown) (h' : Listing limit made shown') : shown = shown' := by
  have hperm : shown.Perm shown' := (List.perm_ext_iff_of_nodup h.nodup h'.nodup).mpr fun r =>
    ⟨fun hr => h.subset_of_listing h' hr, fun hr => h'.subset_of_listing h hr⟩
  refine hperm.eq_of_pairwise (fun a b _ _ hab hba => ?_) h.sorted h'.sorted
  exact absurd hba hab.asymm

/-- A listing goes on where a shorter one ends. -/
theorem recent_prefix (records : List Record) {fewer more : Int} (hpos : 0 ≤ fewer)
    (hle : fewer ≤ more) :
    Memory.recent ⟨records⟩ fewer <+: Memory.recent ⟨records⟩ more := by
  rw [Memory.recent, Memory.recent, slice_eq_take, slice_eq_take, if_pos hpos,
    if_pos (Int.le_trans hpos hle)]
  exact List.take_prefix_take_left (Int.toNat_le_toNat hle)

/-! ## 3. Runs -/

/-- **What a run does to the store in memory**: it adds the records that are asked for, and these
are the ones that it is answered with. -/
theorem memory_run (records : List Record) (c : Clock) (operations : List Operation) :
    (⟨.memory ⟨records⟩, c⟩ : Archive).made operations = c.recorded records.length operations ∧
      ∃ c', (⟨.memory ⟨records⟩, c⟩ : Archive).run (operations.map .perform) =
        ⟨.memory ⟨records ++ c.recorded records.length operations⟩, c'⟩ := by
  induction operations generalizing records c with
  | nil =>
    refine ⟨rfl, c, ?_⟩
    rw [Clock.recorded, List.append_nil]
    rfl
  | cons operation operations ih =>
    rw [Archive.made_cons, List.map_cons]
    cases operation with
    | create code language report =>
      obtain ⟨hmade, hrun⟩ := ih
        (records ++ [Record.ofReport (records.length + 1 : Nat) code language report c.now]) c.tick
      rw [List.length_append, List.length_singleton] at hmade hrun
      constructor
      · rw [Clock.recorded, ← hmade]
        rfl
      · rw [Clock.recorded, List.append_cons]
        exact hrun
    | get id => exact ih records c
    | recent limit => exact ih records c

/-- Records whose numbers are their places, as a ledger. -/
theorem numbered_map_some {records : List Record}
    (h : ∀ (k : Nat) r, records[k]? = some r → r.id = (k + 1 : Nat)) :
    Ledger.Numbered (records.map some) := by
  intro id r hr
  obtain ⟨k, rfl, hk⟩ := Ledger.find?_eq_some hr
  rw [List.getElem?_map] at hk
  obtain ⟨q, hq, hqr⟩ := Option.map_eq_some_iff.mp hk
  rw [← Option.some.inj hqr, h k q hq]
  rfl

/-! ## 4. What the store tells of its history -/

/-- What an archive tells of the records that were made in it. -/
structure Archive.Remembers (a : Archive) (made : List Record) : Prop where
  /-- there are as many as were made -/
  size : a.size? = some made.length
  /-- the numbers of the records are their places, from one on -/
  numbers : made.map Record.id = (List.range made.length).map fun k => ((k + 1 : Nat) : Int)
  /-- a number finds the record at its place, and nothing behind the last one -/
  found : ∀ k : Nat, a.get ((k + 1 : Nat) : Int) = .ok made[k]?
  /-- no other number finds anything -/
  missing : ∀ id ≤ 0, a.get id = .ok none
  /-- a listing shows the newest records -/
  listed : ∀ limit, ∃ shown, a.recent limit = .ok shown ∧ Listing limit made shown
  /-- a listing goes on where a shorter one ends -/
  growing : ∀ fewer more, 0 ≤ fewer → fewer ≤ more → ∃ front all,
    a.recent fewer = .ok front ∧ a.recent more = .ok all ∧ front <+: all

/-- The store in memory remembers records whose numbers are their places. -/
theorem remembers_of_places {records : List Record} (c : Clock)
    (h : ∀ (k : Nat) r, records[k]? = some r → r.id = (k + 1 : Nat)) :
    Archive.Remembers ⟨.memory ⟨records⟩, c⟩ records := by
  have hids : records.map Record.id =
      (List.range records.length).map fun k => ((k + 1 : Nat) : Int) := by
    refine List.ext_getElem (by simp) fun k hk _ => ?_
    rw [List.length_map] at hk
    rw [List.getElem_map, List.getElem_map, List.getElem_range]
    exact h k _ (List.getElem?_eq_getElem hk)
  have hnodup : (records.map Record.id).Nodup := by
    rw [hids]
    refine List.Nodup.map (fun m n hmn => ?_) List.nodup_range
    have : ((m + 1 : Nat) : Int) = (n + 1 : Nat) := hmn
    omega
  have hget : ∀ id, Archive.get ⟨.memory ⟨records⟩, c⟩ id =
      .ok (Ledger.find? (records.map some) id) := by
    intro id
    rw [← find?_map_some (numbered_map_some h)]
    rfl
  constructor
  · rfl
  · exact hids
  · intro k
    rw [hget, Int.natCast_succ, Ledger.find?_succ, List.getElem?_map]
    cases records[k]? with
    | none => rfl
    | some r => rfl
  · intro id hid
    rw [hget]
    cases hfind : Ledger.find? (records.map some) id with
    | none => rfl
    | some r => exact absurd (Ledger.pos_of_isSome (by rw [hfind]; rfl)) (by omega)
  · intro limit
    exact ⟨_, rfl, listing_recent hnodup limit⟩
  · intro fewer more hpos hle
    exact ⟨_, _, rfl, rfl, recent_prefix records hpos hle⟩

/-- **The history of the store in memory**: whatever the clock shows and whatever else is asked for
in between, the records that a run is answered with are the ones that were asked for, with the
numbers from one on; the records that a first part of the run has made stay at their places; and
these records are what the store tells of afterwards. -/
theorem memory_remembers (reading : Nat → Int) (before after : List Operation) :
    let a : Archive := ⟨.memory .empty, ⟨reading, 0⟩⟩
    let made := a.made (before ++ after)
    made.length = creates ((before ++ after).map .perform) ∧
      made = Clock.recorded ⟨reading, 0⟩ 0 (before ++ after) ∧
      a.made before <+: made ∧
      (a.run ((before ++ after).map .perform)).Remembers made := by
  intro a made
  obtain ⟨hmade, c', hrun⟩ := memory_run [] ⟨reading, 0⟩ (before ++ after)
  have hmade : made = Clock.recorded ⟨reading, 0⟩ 0 (before ++ after) := hmade
  refine ⟨?_, hmade, ?_, ?_⟩
  · rw [hmade, Clock.length_recorded]
  · have happend : made = _ := Archive.made_append a before after
    rw [happend]
    exact List.prefix_append _ _
  · have hrun : a.run ((before ++ after).map .perform) = ⟨.memory ⟨made⟩, c'⟩ := by
      rw [hmade]
      exact hrun
    rw [hrun]
    refine remembers_of_places c' fun k r hk => ?_
    rw [hmade] at hk
    rw [(Clock.recorded_get hk).1, Nat.zero_add]

end Critique
