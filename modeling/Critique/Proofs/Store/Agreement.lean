/-
# The two stores answer alike

The store in memory keeps records and sorts them by time when they are listed; the store on a server
keeps texts and an index, and reads every record back.  Nothing is shared between them, and yet no
answer tells them apart, as long as no command of the server fails, the clock does not run backwards
and no record is asked for by a number of more than 4300 digits.  There is none under such a number,
but only the store in memory says so: the other cannot write the key (`Agrees.get_of_long`).

`Agrees` ties the two together: the server holds the ledger of the records in memory, one under each
number, and the times of the records ascend and are not later than the clock.  One operation keeps
this and is answered alike (`Agrees.perform`), so a run is (`answers_agree`).  The clock is what
makes the two orders one: records in ascending order of numbers are then in ascending order of times
as well, and sorting them by time, the latest first, turns them around (`mergeSort_later`).

* `mergeSort_later`: sorting by time turns records around whose times and numbers ascend;
* `Agrees.perform`: one operation is answered alike;
* `answers_agree`: a run is answered alike.
-/
import Critique.Proofs.Store.Serving
import Mathlib.Data.List.Nodup

namespace Critique

open Remote (Holds)

/-! ## 1. Records in memory -/

theorem Record.later_iff {a b : Record} :
    a.later b = true ↔ b.created.instant < a.created.instant ∨
      (a.created.instant = b.created.instant ∧ b.id ≤ a.id) := by
  simp [Record.later]

theorem Record.later_trans (a b c : Record) (hab : a.later b = true) (hbc : b.later c = true) :
    a.later c = true := by
  rw [Record.later_iff] at hab hbc ⊢
  omega

theorem Record.later_total (a b : Record) : (a.later b || b.later a) = true := by
  rw [Bool.or_eq_true, Record.later_iff, Record.later_iff]
  omega

/-- **Sorting by time turns records around** whose times and numbers ascend. -/
theorem mergeSort_later {records : List Record}
    (times : records.Pairwise fun a b => a.created.instant ≤ b.created.instant)
    (ids : records.Pairwise fun a b => a.id < b.id) :
    records.mergeSort Record.later = records.reverse := by
  have hreverse : records.reverse.Pairwise fun a b => a.later b = true := by
    refine List.pairwise_reverse.mpr (times.imp₂ (fun a b htime hid => ?_) ids)
    rw [Record.later_iff]
    omega
  have hperm : (records.mergeSort Record.later).Perm records.reverse :=
    (List.mergeSort_perm _ _).trans (List.reverse_perm records).symm
  have hsorted := List.pairwise_mergeSort Record.later_trans Record.later_total records
  refine hperm.eq_of_pairwise ?_ hsorted hreverse
  -- two records neither of which comes before the other carry one number
  intro a b ha hb hab hba
  rw [Record.later_iff] at hab hba
  have hid : a.id = b.id := by omega
  have hnodup : (records.map Record.id).Nodup :=
    List.pairwise_map.mpr (ids.imp fun hlt => Int.ne_of_lt hlt)
  exact List.inj_on_of_nodup_map hnodup (List.mem_mergeSort.mp ha) (List.mem_reverse.mp hb) hid

/-! ## 2. The relation -/

/-- The server holds the records in memory, and the clock, of which so many readings are still to
be taken, has not been behind any of them. -/
structure Agrees (records : List Record) (s : Server) (c : Clock) (count : Nat) : Prop where
  holds : Holds s (records.map some)
  working : s.failing = none
  room : records.length + count < 2 ^ 63
  years : c.InYears count
  steady : c.Steady count
  ordered : records.Pairwise fun a b => a.created.instant ≤ b.created.instant
  past : 0 < count → ∀ r ∈ records, r.created.instant ≤ c.reading c.taken

namespace Agrees

variable {records : List Record} {s : Server} {c : Clock} {count : Nat}

theorem serves (h : Agrees records s c count) : Serves records s c count :=
  ⟨h.holds, h.working, h.room, h.years⟩

/-- A new record goes to both stores. -/
theorem create (h : Agrees records s c (count + 1)) (code language : String) {report : Report}
    (hreport : report.Writable) :
    ∃ s', Remote.create s c code language report =
        (.ok (Record.ofReport (records.length + 1 : Nat) code language report c.now), s', c.tick) ∧
      Agrees (records ++ [Record.ofReport (records.length + 1 : Nat) code language report c.now])
        s' c.tick count := by
  obtain ⟨s', hcreate, hserves⟩ := h.serves.create code language hreport
  have hnow : c.now.instant = c.reading c.taken := Time.ofInstant_instant _
  refine ⟨s', hcreate, ⟨hserves.holds, hserves.working, hserves.room, hserves.years,
    h.steady.tick, ?_, ?_⟩⟩
  · refine List.pairwise_append.mpr ⟨h.ordered, List.pairwise_singleton _ _, ?_⟩
    intro a ha b hb
    rw [List.mem_singleton.mp hb]
    exact hnow ▸ h.past (Nat.succ_pos count) a ha
  · intro hpos r hr
    have hstep : c.reading c.taken ≤ c.reading (c.taken + 1) := h.steady 0 (by omega)
    rcases List.mem_append.mp hr with hr | hr
    · exact Int.le_trans (h.past (Nat.succ_pos count) r hr) hstep
    · rw [List.mem_singleton.mp hr]
      exact hnow ▸ hstep

/-- **A number of too many digits tells the stores apart**: the one finds nothing, the other refuses
to look. -/
theorem get_of_long (h : Agrees records s c count) {id : Int} (long : ¬ Numeral.Short id) :
    Memory.get? ⟨records⟩ id = none ∧ Remote.get s id = .error (.numeral .unwritable) := by
  refine ⟨?_, Remote.get_of_long s long⟩
  cases hfind : Memory.get? ⟨records⟩ id with
  | none => rfl
  | some r =>
    rw [find?_map_some h.holds.numbered] at hfind
    have hkept := h.holds.writable r (Remote.Ledger.mem_kept.mpr ⟨id, hfind⟩)
    exact absurd (h.holds.numbered id r hfind ▸ hkept.id) long

theorem recent (h : Agrees records s c count) (limit : Int) :
    Remote.recent s limit = .ok (Memory.recent ⟨records⟩ limit) := by
  rw [h.serves.recent, Memory.recent, mergeSort_later h.ordered h.serves.ascending]

/-- **One operation is answered alike**, and the stores agree afterwards. -/
theorem perform {operation : Operation} (h : Agrees records s c (operation.creates + count))
    (bounded : operation.Bounded) (asks : operation.Asks) :
    ∃ answer records' s' c',
      (⟨.memory ⟨records⟩, c⟩ : Archive).perform operation = (answer, ⟨.memory ⟨records'⟩, c'⟩) ∧
      (⟨.remote s, c⟩ : Archive).perform operation = (answer, ⟨.remote s', c'⟩) ∧
      Agrees records' s' c' count := by
  cases operation with
  | create code language report =>
    rw [Operation.creates, Nat.add_comm] at h
    obtain ⟨s', hcreate, hagrees⟩ := h.create code language bounded
    refine ⟨_, _, s', c.tick, rfl, ?_, hagrees⟩
    simp only [Archive.perform, Archive.create, hcreate]
    rfl
  | get id =>
    rw [Operation.creates, Nat.zero_add] at h
    refine ⟨_, records, s, c, rfl, ?_, h⟩
    simp only [Archive.perform, Archive.get, h.serves.get asks]
  | recent limit =>
    rw [Operation.creates, Nat.zero_add] at h
    refine ⟨_, records, s, c, rfl, ?_, h⟩
    simp only [Archive.perform, Archive.recent, h.recent]

/-- A run is answered alike from stores that agree. -/
theorem answers {operations : List Operation}
    (h : Agrees records s c (creates (operations.map .perform)))
    (bounded : ∀ operation ∈ operations, operation.Bounded)
    (asks : ∀ operation ∈ operations, operation.Asks) :
    (⟨.memory ⟨records⟩, c⟩ : Archive).answers operations =
      (⟨.remote s, c⟩ : Archive).answers operations := by
  induction operations generalizing records s c with
  | nil => rfl
  | cons operation operations ih =>
    rw [List.forall_mem_cons] at bounded asks
    rw [List.map_cons, creates_cons] at h
    obtain ⟨answer, records', s', c', hmemory, hremote, hagrees⟩ := h.perform bounded.1 asks.1
    rw [Archive.answers, Archive.answers, hmemory, hremote, ih hagrees bounded.2 asks.2]

end Agrees

/-! ## 3. From empty stores -/

/-- **The two stores answer alike**: a run from empty stores, with one clock that shows years of
four digits and does not run backwards, is answered by the store in memory and by the store on a
server with equal records throughout, as long as the numbers that it asks for have at most 4300
digits. -/
theorem answers_agree {reading : Nat → Int} {operations : List Operation}
    (years : Clock.InYears ⟨reading, 0⟩ (creates (operations.map .perform)))
    (steady : Clock.Steady ⟨reading, 0⟩ (creates (operations.map .perform)))
    (few : creates (operations.map .perform) < 2 ^ 63)
    (bounded : ∀ operation ∈ operations, operation.Bounded)
    (asks : ∀ operation ∈ operations, operation.Asks) :
    (⟨.memory .empty, ⟨reading, 0⟩⟩ : Archive).answers operations =
      (⟨.remote .empty, ⟨reading, 0⟩⟩ : Archive).answers operations := by
  have hagrees : Agrees [] .empty ⟨reading, 0⟩ (creates (operations.map .perform)) :=
    { holds := Remote.holds_empty
      working := rfl
      room := by simpa using few
      years := years
      steady := steady
      ordered := List.Pairwise.nil
      past := fun _ r hr => absurd hr (by simp) }
  exact hagrees.answers bounded asks

/-- Two records of one time, asked for with limits of every kind and by numbers of every kind. -/
theorem answers_agree_of_two :
    let report : Report := ⟨70, [⟨.suggestion, .low, 3, "long line", "Style"⟩], none, .zero⟩
    let operations : List Operation :=
      [.create "x = 1" "python" report, .create "" "cobol" report, .recent (-1), .recent (2 ^ 63 + 5),
        .get 2, .get (-5), .recent 0]
    (⟨.memory .empty, ⟨fun _ => 0, 0⟩⟩ : Archive).answers operations =
      (⟨.remote .empty, ⟨fun _ => 0, 0⟩⟩ : Archive).answers operations := by
  refine answers_agree ?_ ?_ (by decide) ?_ ?_
  · intro k _
    show 1 ≤ (Time.Stamp.ofInstant 0).date.year ∧ (Time.Stamp.ofInstant 0).date.year ≤ 9999
    decide
  · intro k _
    exact Int.le_refl 0
  · have hreport : Report.Writable
        ⟨70, [⟨.suggestion, .low, 3, "long line", "Style"⟩], none, .zero⟩ :=
      ⟨Numeral.short_of_lt (by decide), by simp [Finding.Writable, Numeral.short_of_lt]⟩
    simp [Operation.Bounded, hreport]
  · simp [Operation.Asks, Numeral.short_of_lt]

end Critique
