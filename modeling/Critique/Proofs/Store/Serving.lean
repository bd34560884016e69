/-
# A server that never fails

As long as no command fails and the clock shows years of four digits, the server is a list of
records and nothing else: the next record gets the next number and goes to the end
(`Serves.create`), the record of a number is the one at that place (`Serves.get`), and a listing is
the list from its end (`Serves.recent`).  No listing asks when a record was made.

* `Serves`: the server holds the records, and there is room for so many more;
* `Serves.run`: a run adds the records that it asks for, and hands over these.
-/
import Critique.Proofs.Store.Run

namespace Critique

open Remote (Ledger Holds)

/-! ## 1. Records by number -/

/-- A record is found by its number in memory as in the ledger. -/
theorem find?_kept {l : Ledger} (h : l.Numbered) (id : Int) :
    l.kept.find? (·.id == id) = l.find? id := by
  cases hfind : l.kept.find? (·.id == id) with
  | none =>
    cases hid : l.find? id with
    | none => rfl
    | some r =>
      have hnone := List.find?_eq_none.mp hfind r (Ledger.mem_kept.mpr ⟨id, hid⟩)
      exact absurd (h id r hid) (by simpa using hnone)
  | some r =>
    have hmem := List.mem_of_find?_eq_some hfind
    have hid : r.id = id := by simpa using List.find?_some hfind
    rw [← hid, h.find?_id hmem]

theorem kept_map_some (records : List Record) : Ledger.kept (records.map some) = records := by
  rw [Ledger.kept, List.filterMap_map]
  exact List.filterMap_some

/-- Records without a gap between their numbers are a ledger. -/
theorem find?_map_some {records : List Record} (h : Ledger.Numbered (records.map some))
    (id : Int) : Memory.get? ⟨records⟩ id = Ledger.find? (records.map some) id := by
  rw [← find?_kept h, kept_map_some]
  rfl

/-! ## 2. The server as a list of records -/

/-- The server holds the records, one under each number; none of its commands fails, and there is
room for so many more, whose times can be written. -/
structure Serves (records : List Record) (s : Server) (c : Clock) (count : Nat) : Prop where
  holds : Holds s (records.map some)
  working : s.failing = none
  room : records.length + count < 2 ^ 63
  years : c.InYears count

namespace Serves

variable {records : List Record} {s : Server} {c : Clock} {count : Nat}

theorem permit (h : Serves records s c count) (command : Command) : s.permit command = .ok () := by
  rw [Server.permit, h.working]

theorem ascending (h : Serves records s c count) : records.Pairwise fun a b => a.id < b.id := by
  have := h.holds.numbered.pairwise_kept
  rwa [kept_map_some] at this

/-- **A new record goes to the end**, with the next number and the next reading. -/
theorem create (h : Serves records s c (count + 1)) (code language : String) {report : Report}
    (hreport : report.Writable) :
    ∃ s', Remote.create s c code language report =
        (.ok (Record.ofReport (records.length + 1 : Nat) code language report c.now), s', c.tick) ∧
      Serves (records ++ [Record.ofReport (records.length + 1 : Nat) code language report c.now])
        s' c.tick count := by
  have hroom : (records.map some).length + 1 < 2 ^ 64 := by
    have := h.room
    rw [List.length_map]
    omega
  obtain ⟨number, outcome, s', l', c', -, hcreate, hfailing, hcases⟩ :=
    Remote.create_cases h.holds hroom code language hreport h.years.fits
  rw [List.length_map] at hcases
  cases hcases with
  | refused hcount => exact absurd (h.permit .countUp) (by simp [hcount])
  | dropped hbatch => exact absurd (h.permit .commit) (by simp [hbatch])
  | stored hholds =>
    refine ⟨s', hcreate, ?_⟩
    constructor
    · simpa using hholds
    · rw [hfailing, h.working]
    · have := h.room
      rw [List.length_append, List.length_singleton]
      omega
    · exact h.years.tick

theorem get (h : Serves records s c count) {id : Int} (short : Numeral.Short id) :
    Remote.get s id = .ok (Memory.get? ⟨records⟩ id) := by
  rw [Remote.get_eq h.holds (h.permit .fetch) short, find?_map_some h.holds.numbered]

/-- **A listing is the list of records from its end**, cut by the limit. -/
theorem recent (h : Serves records s c count) (limit : Int) :
    Remote.recent s limit = .ok (slice limit records.reverse) := by
  have hfew : (records.map some).length < 2 ^ 63 := by
    have := h.room
    rw [List.length_map]
    omega
  rw [Remote.recent_eq h.holds (h.permit .fetch) (h.permit .highest) hfew, kept_map_some]

/-! ## 3. Runs -/

/-- **What a run does to a server that never fails**: it adds the records that are asked for, and
these are the ones that it is answered with. -/
theorem run {operations : List Operation}
    (h : Serves records s c (creates (operations.map .perform)))
    (bounded : ∀ operation ∈ operations, operation.Bounded) :
    (⟨.remote s, c⟩ : Archive).made operations = c.recorded records.length operations ∧
      ∃ s' c', (⟨.remote s, c⟩ : Archive).run (operations.map .perform) = ⟨.remote s', c'⟩ ∧
        Serves (records ++ c.recorded records.length operations) s' c' 0 := by
  induction operations generalizing records s c with
  | nil =>
    refine ⟨rfl, s, c, rfl, ?_⟩
    rw [Clock.recorded, List.append_nil]
    exact h
  | cons operation operations ih =>
    rw [List.forall_mem_cons] at bounded
    rw [List.map_cons, creates_cons] at h
    rw [Archive.made_cons, List.map_cons]
    cases operation with
    | create code language report =>
      rw [Event.creates, Operation.creates, Nat.add_comm] at h
      obtain ⟨s', hcreate, hserves⟩ := h.create code language bounded.1
      have hperform : (⟨.remote s, c⟩ : Archive).perform (.create code language report) =
          (.created (.ok (Record.ofReport (records.length + 1 : Nat) code language report c.now)),
            ⟨.remote s', c.tick⟩) := by
        simp only [Archive.perform, Archive.create, hcreate]
      obtain ⟨hmade, hrun⟩ := ih hserves bounded.2
      rw [List.length_append, List.length_singleton] at hmade hrun
      rw [Archive.run, List.foldl_cons, Archive.handle, hperform, Clock.recorded, hmade]
      refine ⟨rfl, ?_⟩
      rw [List.append_cons]
      exact hrun
    | get id =>
      rw [Event.creates, Operation.creates, Nat.zero_add] at h
      exact ih h bounded.2
    | recent limit =>
      rw [Event.creates, Operation.creates, Nat.zero_add] at h
      exact ih h bounded.2

end Serves

/-- A server that holds nothing. -/
theorem serves_empty {reading : Nat → Int} {count : Nat} (few : count < 2 ^ 63)
    (years : Clock.InYears ⟨reading, 0⟩ count) : Serves [] .empty ⟨reading, 0⟩ count where
  holds := Remote.holds_empty
  working := rfl
  room := by simpa using few
  years := years

end Critique
