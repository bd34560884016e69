/-
# Which records are the latest

A listing is to show the latest records first, by the time at which they were made.  The store in
memory sorts them by that time.  The store on a server does not know the time of a record: its index
is scored by the number of the record when the record is written, so what it lists is the history
turned around (`remote_recent`).  Numbers ascend whatever the clock does, and times ascend with them
only where no reading is earlier than the one before it.

So the order in which the server lists the records is that of their times exactly if the clock was
steady while they were made (`listed_by_time_iff`), and two records and one step back of the clock
are enough for a listing that is out of order (`listed_out_of_time`).
-/
import Critique.Proofs.Store.History

namespace Critique

/-! ## 1. Times and numbers -/

/-- **Records that are asked for are in the order of their times** exactly if none of the readings
is earlier than the one before it. -/
theorem Clock.newer_recorded_iff (c : Clock) (number : Nat) (operations : List Operation) :
    ((c.recorded number operations).Pairwise fun a b => b.Newer a) ↔
      c.Steady (creates (operations.map .perform)) := by
  have hlength := c.length_recorded number operations
  have place : ∀ {k : Nat} (hk : k < (c.recorded number operations).length),
      (c.recorded number operations)[k].id = (number + k + 1 : Nat) ∧
        (c.recorded number operations)[k].created.instant = c.reading (c.taken + k) :=
    fun hk => Clock.recorded_get (List.getElem?_eq_getElem hk)
  rw [List.pairwise_iff_getElem]
  constructor
  · intro h k hk
    rw [← hlength] at hk
    have hnewer := h k (k + 1) (Nat.lt_of_succ_lt hk) hk (Nat.lt_succ_self k)
    rw [← (place (Nat.lt_of_succ_lt hk)).2, ← (place hk).2]
    rcases hnewer with htime | ⟨htime, -⟩
    · exact Int.le_of_lt htime
    · exact Int.le_of_eq htime.symm
  · intro h i j hi hj hij
    have hle := h.le (Nat.le_of_lt hij) (hlength ▸ hj)
    rw [← (place hi).2, ← (place hj).2] at hle
    rcases Int.lt_or_eq_of_le hle with htime | htime
    · exact .inl htime
    · refine .inr ⟨htime.symm, ?_⟩
      rw [(place hi).1, (place hj).1]
      omega

/-! ## 2. What the server lists -/

/-- A limit that is not exceeded leaves everything. -/
theorem slice_of_length_le {α : Type} {limit : Int} {xs : List α} (h : (xs.length : Int) ≤ limit) :
    slice limit xs = xs := by
  have hpos : 0 ≤ limit := Int.le_trans (Int.natCast_nonneg _) h
  rw [slice_eq_take, if_pos hpos]
  exact List.take_of_length_le (by omega)

/-- **What the server lists** are the records that were made, from the last one on. -/
theorem remote_recent {reading : Nat → Int} {operations : List Operation}
    (years : Clock.InYears ⟨reading, 0⟩ (creates (operations.map .perform)))
    (few : creates (operations.map .perform) < 2 ^ 63)
    (bounded : ∀ operation ∈ operations, operation.Bounded) (limit : Int) :
    let a : Archive := ⟨.remote .empty, ⟨reading, 0⟩⟩
    a.made operations = Clock.recorded ⟨reading, 0⟩ 0 operations ∧
      (a.run (operations.map .perform)).recent limit =
        .ok (slice limit (a.made operations).reverse) := by
  intro a
  obtain ⟨hmade, s', c', hrun, hserves⟩ := (serves_empty few years).run bounded
  refine ⟨hmade, ?_⟩
  rw [hrun, hmade]
  exact hserves.recent limit

/-- **When the server lists records by their times**: a limit that is not exceeded shows all records
that were made, by their numbers, the last one first.  This is the order of their times, the latest
first, exactly if no reading of the clock was earlier than the one before it. -/
theorem listed_by_time_iff {reading : Nat → Int} {operations : List Operation} {limit : Int}
    (years : Clock.InYears ⟨reading, 0⟩ (creates (operations.map .perform)))
    (few : creates (operations.map .perform) < 2 ^ 63)
    (bounded : ∀ operation ∈ operations, operation.Bounded)
    (all : (creates (operations.map .perform) : Int) ≤ limit) :
    let a : Archive := ⟨.remote .empty, ⟨reading, 0⟩⟩
    let made := a.made operations
    made = Clock.recorded ⟨reading, 0⟩ 0 operations ∧
      (a.run (operations.map .perform)).recent limit = .ok made.reverse ∧
      (made.reverse.Pairwise Record.Newer ↔
        Clock.Steady ⟨reading, 0⟩ (creates (operations.map .perform))) := by
  intro a made
  obtain ⟨hmade, hrecent⟩ := remote_recent years few bounded limit
  have hmade : made = Clock.recorded ⟨reading, 0⟩ 0 operations := hmade
  refine ⟨hmade, ?_, ?_⟩
  · have hlength : (made.reverse.length : Int) ≤ limit := by
      rw [List.length_reverse, hmade, Clock.length_recorded]
      exact all
    rw [hrecent]
    exact congrArg _ (slice_of_length_le hlength)
  · rw [List.pairwise_reverse, hmade]
    exact Clock.newer_recorded_iff _ _ _

/-! ## 3. A clock that is set back -/

/-- A clock that shows one second, and zero from then on. -/
def setBack : Nat → Int
  | 0 => 1000000
  | _ + 1 => 0

/-- Two records of sources without findings. -/
def twoSources : List Operation :=
  [.create "// a" "javascript" ⟨85, [], none, .zero⟩,
    .create "// b" "javascript" ⟨85, [], none, .zero⟩]

/-- The record of the first of them, made at one second. -/
def firstMade : Record :=
  .ofReport 1 "// a" "javascript" ⟨85, [], none, .zero⟩ (.ofInstant 1000000)

/-- The record of the second of them, made at zero. -/
def secondMade : Record :=
  .ofReport 2 "// b" "javascript" ⟨85, [], none, .zero⟩ (.ofInstant 0)

theorem firstMade_newer : firstMade.Newer secondMade := by
  refine .inl ?_
  show (Time.Stamp.ofInstant 0).instant < (Time.Stamp.ofInstant 1000000).instant
  rw [Time.ofInstant_instant, Time.ofInstant_instant]
  decide

theorem recorded_twoSources :
    Clock.recorded ⟨setBack, 0⟩ 0 twoSources = [firstMade, secondMade] := rfl

theorem setBack_inYears (count : Nat) : Clock.InYears ⟨setBack, 0⟩ count := by
  intro k _
  have hfirst : 1 ≤ (Time.Stamp.ofInstant 1000000).date.year ∧
      (Time.Stamp.ofInstant 1000000).date.year ≤ 9999 := by decide
  have hrest : 1 ≤ (Time.Stamp.ofInstant 0).date.year ∧
      (Time.Stamp.ofInstant 0).date.year ≤ 9999 := by decide
  rw [Nat.zero_add]
  cases k with
  | zero => exact hfirst
  | succ k => exact hrest

theorem twoSources_bounded : ∀ operation ∈ twoSources, operation.Bounded := by
  have hreport : Report.Writable ⟨85, [], none, .zero⟩ :=
    ⟨Numeral.short_of_lt (by decide), by simp⟩
  simp [twoSources, Operation.Bounded, hreport]

/-- What the server lists of the two records, while the clock is set back between them. -/
theorem listed_by_time_iff_of_two :
    let a : Archive := ⟨.remote .empty, ⟨setBack, 0⟩⟩
    let made := a.made twoSources
    made = Clock.recorded ⟨setBack, 0⟩ 0 twoSources ∧
      (a.run (twoSources.map .perform)).recent 2 = .ok made.reverse ∧
      (made.reverse.Pairwise Record.Newer ↔
        Clock.Steady ⟨setBack, 0⟩ (creates (twoSources.map .perform))) :=
  listed_by_time_iff (setBack_inYears _) (by decide) twoSources_bounded (by decide)

/-- **A listing that is out of order**: the server lists the second record first, and the first one
is the newer of the two.  The store in memory lists the first one first. -/
theorem listed_out_of_time :
    (⟨.remote .empty, ⟨setBack, 0⟩⟩ : Archive).made twoSources = [firstMade, secondMade] ∧
      ((⟨.remote .empty, ⟨setBack, 0⟩⟩ : Archive).run (twoSources.map .perform)).recent 2 =
        .ok [secondMade, firstMade] ∧
      ¬ [secondMade, firstMade].Pairwise Record.Newer ∧
      [firstMade, secondMade].Pairwise Record.Newer ∧
      ((⟨.memory .empty, ⟨setBack, 0⟩⟩ : Archive).run (twoSources.map .perform)).recent 2 =
        .ok [firstMade, secondMade] := by
  obtain ⟨hmade, hrecent⟩ := remote_recent (setBack_inYears _) (by decide) twoSources_bounded 2
  obtain ⟨-, c', hrun⟩ := memory_run [] ⟨setBack, 0⟩ twoSources
  have hmade : (⟨.remote .empty, ⟨setBack, 0⟩⟩ : Archive).made twoSources =
      [firstMade, secondMade] := hmade.trans recorded_twoSources
  have hlater : [firstMade, secondMade].Pairwise fun a b => a.later b = true :=
    List.pairwise_pair.mpr (Record.later_iff.mpr (firstMade_newer.imp_right fun h => by omega))
  refine ⟨hmade, ?_, ?_, ?_, ?_⟩
  · rw [hrecent, hmade]
    rfl
  · intro h
    exact firstMade_newer.asymm (List.pairwise_pair.mp h)
  · exact List.pairwise_pair.mpr firstMade_newer
  · change ((⟨.memory ⟨[]⟩, ⟨setBack, 0⟩⟩ : Archive).run _).recent 2 = _
    rw [hrun]
    show Except.ok (slice 2 ([firstMade, secondMade].mergeSort Record.later)) = _
    rw [List.mergeSort_of_pairwise hlater]
    rfl

end Critique
