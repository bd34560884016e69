/-
# Records stay

A record that has been made is found under its number for good, whatever records are made after it.
In memory that is so because new records go behind the old ones; on a server it is so because a new
record has a key of its own, which in turn holds because the counter is past every number that was
handed out.  `Store.Keeps` says as much of one record as is needed for this, so nothing has to be
known of the other records of a store.

No command of the server is made to fail here (`Store.Working`).  The making of a record then goes
all the way or changes nothing at all: the count is the only command that can be refused for a
reason of its own, and it comes first.

* `Archive.create_working`: a record is made, or nothing has changed;
* `Archive.create_of_hasRoom`: where there is room, a record is made;
* `Archive.get_of_keeps`: a record that is kept is found by its number.
-/
import Critique.Proofs.Store.Run

namespace Critique

open Remote

/-! ## 1. What is asked of a store -/

/-- The empty store of one of the two backends. -/
def Store.IsFresh (s : Store) : Prop :=
  s = .memory .empty ∨ s = .remote .empty

/-- No command of the server behind a store is made to fail. -/
def Store.Working : Store → Prop
  | .memory _ => True
  | .remote server => server.failing = none

/-- The number of records in memory, or the counter of a server, tells the last number that was
handed out, and so many more are of 64 bits. -/
def Store.HasRoom (count : Nat) : Store → Prop
  | .memory m => (∀ r ∈ m.records, r.id ≤ m.size) ∧ m.size + count < 2 ^ 64
  | .remote s =>
    ∃ n : Nat, Numeral.read ((s.text? counterKey).getD "0") = .ok (n : Int) ∧ n + count < 2 ^ 64

/-- The last number that was handed out. -/
def Store.LastNumber (n : Int) : Store → Prop
  | .memory m => m.size = n
  | .remote s => Numeral.read ((s.text? counterKey).getD "0") = .ok n

/-- A store keeps a record: the record is found under its number, and on a server the counter is
past that number. -/
def Store.Keeps (r : Record) : Store → Prop
  | .memory m => m.get? r.id = some r
  | .remote s =>
    s.text? (recordKey r.id) = some (encode r) ∧
      ∃ n, Numeral.read ((s.text? counterKey).getD "0") = .ok n ∧ r.id ≤ n

theorem Store.IsFresh.working {s : Store} (h : s.IsFresh) : s.Working := by
  rcases h with rfl | rfl
  · trivial
  · rfl

theorem Store.IsFresh.lastNumber {s : Store} (h : s.IsFresh) : s.LastNumber 0 := by
  rcases h with rfl | rfl
  · rfl
  · show Numeral.read ((Server.empty.text? counterKey).getD "0") = .ok 0
    rw [holds_empty.count]
    exact Numeral.read_text (Numeral.short_of_lt (by decide))

theorem Store.IsFresh.hasRoom {s : Store} (h : s.IsFresh) {count : Nat} (few : count < 2 ^ 64) :
    s.HasRoom count := by
  rcases h with rfl | rfl
  · exact ⟨fun r hr => absurd hr List.not_mem_nil, by simpa [Memory.size, Memory.empty] using few⟩
  · exact ⟨0, lastNumber (.inr rfl), by omega⟩

theorem Store.HasRoom.mono {s : Store} {count fewer : Nat} (h : s.HasRoom count)
    (hle : fewer ≤ count) : s.HasRoom fewer := by
  cases s with
  | memory m => exact ⟨h.1, Nat.lt_of_le_of_lt (Nat.add_le_add_left hle _) h.2⟩
  | remote s =>
    obtain ⟨n, hread, hroom⟩ := h
    exact ⟨n, hread, Nat.lt_of_le_of_lt (Nat.add_le_add_left hle _) hroom⟩

/-! ## 2. Making a record on a server -/

/-- The server after a record was made. -/
def Server.withRecord (s : Server) (r : Record) : Server :=
  ((s.setText counterKey (Numeral.text r.id)).setText (recordKey r.id) (encode r)).setScore
    (Numeral.text r.id) r.id

namespace Server

@[simp] theorem withRecord_failing (s : Server) (r : Record) :
    (s.withRecord r).failing = s.failing := rfl

@[simp] theorem text?_withRecord_recordKey (s : Server) (r : Record) :
    (s.withRecord r).text? (recordKey r.id) = some (encode r) :=
  text?_setText _ _ _

@[simp] theorem text?_withRecord_counterKey (s : Server) (r : Record) :
    (s.withRecord r).text? counterKey = some (Numeral.text r.id) :=
  (text?_setText_of_ne _ (recordKey_ne_counterKey r.id).symm _).trans (text?_setText _ _ _)

/-- The other records are not touched. -/
theorem text?_withRecord_of_ne (s : Server) {r : Record} {id : Int} (h : id ≠ r.id) :
    (s.withRecord r).text? (recordKey id) = s.text? (recordKey id) :=
  (text?_setText_of_ne _ (fun he => h (recordKey_injective he)) _).trans
    (text?_setText_of_ne _ (recordKey_ne_counterKey id) _)

end Server

/-- A server that works permits every command. -/
theorem Server.permit_of_working {s : Server} (h : s.failing = none) (command : Command) :
    s.permit command = .ok () := by
  rw [Server.permit, h]

/-- The counter counts on. -/
theorem Remote.countUp_next {s : Server} (permitted : s.permit .countUp = .ok ()) {n : Int}
    (hread : Numeral.read ((s.text? counterKey).getD "0") = .ok n)
    (hshort : Numeral.Short (n + 1)) :
    s.countUp counterKey = .ok (n + 1, s.setText counterKey (Numeral.text (n + 1))) := by
  rw [Server.countUp, permitted, hread]
  simp only [Except.mapError, bind, Except.bind, Numeral.writtenWithin_of_le hshort]
  rfl

/-- **Where both commands are permitted a record is made** if the counter counts on. -/
theorem Remote.create_eq {s : Server} (count : s.permit .countUp = .ok ())
    (batch : s.permit .commit = .ok ()) {n : Int}
    (hread : Numeral.read ((s.text? counterKey).getD "0") = .ok n) (hshort : Numeral.Short (n + 1))
    (clock : Clock) (code language : String) (report : Report) :
    create s clock code language report =
      (.ok (Record.ofReport (n + 1) code language report clock.now),
        s.withRecord (Record.ofReport (n + 1) code language report clock.now), clock.tick) := by
  have hpermit : (s.setText counterKey (Numeral.text (n + 1))).permit .commit = .ok () := batch
  rw [create, countUp_next count hread hshort]
  simp only [commit_eq hpermit]
  rfl

/-- The counter counts on, or nothing has changed. -/
theorem Remote.create_unless_counted (s : Server) (clock : Clock) (code language : String)
    (report : Report) :
    (∃ error, create s clock code language report = (.error error, s, clock)) ∨
      ∃ n, Numeral.read ((s.text? counterKey).getD "0") = .ok n ∧ Numeral.Short (n + 1) := by
  cases hcount : s.countUp counterKey with
  | error error => exact .inl ⟨error, by rw [create, hcount]⟩
  | ok counted =>
    obtain ⟨n, hread, hnumber, hshort, -⟩ := countUp_ok hcount
    exact .inr ⟨n, hread, hnumber ▸ hshort⟩

/-! ## 3. Making a record in an archive -/

/-- What there is to say of an archive in which a record has just been made. -/
structure Archive.Made (a : Archive) (code language : String) (report : Report) (r : Record)
    (a' : Archive) : Prop where
  record : r = Record.ofReport r.id code language report a.clock.now
  number : ∀ n, a.store.LastNumber n → r.id = n + 1
  clock : a'.clock = a.clock.tick
  working : a'.store.Working
  room : ∀ count, a.store.HasRoom (count + 1) → a'.store.HasRoom count
  short : ∀ count, a.store.HasRoom (count + 1) → Numeral.Short r.id
  keeps : ∀ count, a.store.HasRoom (count + 1) → a'.store.Keeps r
  kept : ∀ q, a.store.Keeps q → a'.store.Keeps q

theorem Memory.made (m : Memory) (clock : Clock) (code language : String) (report : Report) :
    Archive.Made ⟨.memory m, clock⟩ code language report
      (m.create code language report clock.now).1
      ⟨.memory (m.create code language report clock.now).2, clock.tick⟩ where
  record := rfl
  number n h := by
    obtain rfl : (m.size : Int) = n := h
    rfl
  clock := rfl
  working := trivial
  room count h := by
    refine ⟨fun r hr => ?_, ?_⟩
    · rw [records_create, List.mem_append, List.mem_singleton] at hr
      rw [size_create]
      rcases hr with hr | rfl
      · have := h.1 r hr
        omega
      · exact Int.le_refl _
    · have := h.2
      rw [size_create]
      omega
  short count h := Numeral.short_of_lt (by
    have := h.2
    show ((m.size + 1 : Nat) : Int).natAbs < 2 ^ 64
    omega)
  keeps count h := by
    -- the numbers before the new one are smaller, so it is not found among them
    have hnone : m.records.find? (·.id == ((m.size + 1 : Nat) : Int)) = none := by
      refine List.find?_eq_none.mpr fun r hr he => ?_
      have := h.1 r hr
      rw [beq_iff_eq] at he
      omega
    show (m.records ++ [(m.create code language report clock.now).1]).find? _ = _
    rw [List.find?_append]
    refine (congrArg (Option.or · _) hnone).trans ?_
    simp [Memory.create]
  kept q hq := by
    show (m.records ++ _).find? _ = _
    rw [List.find?_append, show m.records.find? (·.id == q.id) = some q from hq]
    rfl

theorem Server.made {s : Server} (h : s.failing = none) {n : Int} (clock : Clock)
    (hread : Numeral.read ((s.text? counterKey).getD "0") = .ok n) (hshort : Numeral.Short (n + 1))
    (code language : String) (report : Report) :
    Archive.Made ⟨.remote s, clock⟩ code language report
      (Record.ofReport (n + 1) code language report clock.now)
      ⟨.remote (s.withRecord (Record.ofReport (n + 1) code language report clock.now)),
        clock.tick⟩ where
  record := rfl
  number m hm := by
    obtain rfl : n = m := Except.ok.inj (hread.symm.trans hm)
    rfl
  clock := rfl
  working := (s.withRecord_failing _).trans h
  room count := by
    rintro ⟨m, hm, hroom⟩
    obtain rfl : n = m := Except.ok.inj (hread.symm.trans hm)
    refine ⟨m + 1, ?_, by omega⟩
    rw [text?_withRecord_counterKey]
    exact Numeral.read_text hshort
  short _ _ := hshort
  keeps _ _ := by
    refine ⟨s.text?_withRecord_recordKey _, n + 1, ?_, Int.le_refl _⟩
    rw [text?_withRecord_counterKey]
    exact Numeral.read_text hshort
  kept q := by
    rintro ⟨htext, m, hm, hle⟩
    obtain rfl : n = m := Except.ok.inj (hread.symm.trans hm)
    have hne : q.id ≠ n + 1 := by omega
    refine ⟨?_, n + 1, ?_, by omega⟩
    · rw [← htext]
      exact s.text?_withRecord_of_ne hne
    · rw [text?_withRecord_counterKey]
      exact Numeral.read_text hshort

/-- **A record is made, or nothing has changed.** -/
theorem Archive.create_working {a : Archive} (h : a.store.Working) (code language : String)
    (report : Report) :
    (∃ error, a.create code language report = (.error error, a)) ∨
      ∃ r a', a.create code language report = (.ok r, a') ∧ a.Made code language report r a' := by
  obtain ⟨store, clock⟩ := a
  cases store with
  | memory m => exact .inr ⟨_, _, rfl, m.made clock code language report⟩
  | remote s =>
    rcases Remote.create_unless_counted s clock code language report with
      ⟨error, hcreate⟩ | ⟨n, hread, hshort⟩
    · exact .inl ⟨error, by simp only [Archive.create, hcreate]⟩
    · refine .inr ⟨_, _, ?_, Server.made h clock hread hshort code language report⟩
      simp only [Archive.create, Remote.create_eq (Server.permit_of_working h _)
        (Server.permit_of_working h _) hread hshort]

/-- **Where there is room, a record is made.** -/
theorem Archive.create_of_hasRoom {a : Archive} (h : a.store.Working) {count : Nat}
    (room : a.store.HasRoom (count + 1)) (code language : String) (report : Report) :
    ∃ r a', a.create code language report = (.ok r, a') ∧ a.Made code language report r a' := by
  obtain ⟨store, clock⟩ := a
  cases store with
  | memory m => exact ⟨_, _, rfl, m.made clock code language report⟩
  | remote s =>
    obtain ⟨n, hread, hroom⟩ := room
    have hshort : Numeral.Short ((n : Int) + 1) := Numeral.short_of_lt (by omega)
    refine ⟨_, _, ?_, Server.made h clock hread hshort code language report⟩
    simp only [Archive.create, Remote.create_eq (Server.permit_of_working h _)
      (Server.permit_of_working h _) hread hshort]

/-! ## 4. Asking for a record -/

/-- **A record that is kept is found by its number.** -/
theorem Archive.get_of_keeps {a : Archive} {r : Record} (h : a.store.Working)
    (hkeeps : a.store.Keeps r) (hr : r.Writable) : a.get r.id = .ok (some r) := by
  obtain ⟨store, clock⟩ := a
  cases store with
  | memory m => exact congrArg Except.ok hkeeps
  | remote s =>
    show Remote.get s r.id = .ok (some r)
    have hpermit : s.permit .fetch = .ok () := Server.permit_of_working h _
    rw [Remote.get, Remote.writtenKey_of_short hr.id]
    simp only [Server.fetch, hpermit, hkeeps.1, bind, Except.bind, pure, Except.pure,
      decode_encode hr]

end Critique
