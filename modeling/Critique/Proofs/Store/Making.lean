/-
# All of a record or nothing

A server can be made to refuse any one of its commands.  Two of them make a record.  The count comes
first, so where it is refused nothing at all has changed; where the batch is refused a number is
lost, which shows in the counter and nowhere else.  It does not matter to the making of a record
that one of the two reading commands is refused.

Where neither refuses, exactly one record is added (`Store.Gains`).  That it is added, and put in
place of no other, holds because nothing is kept under a number that has not been handed out yet
(`Store.UpTo`); no batch that was refused changes that.

* `create_dropped`: a refused batch costs a number and nothing else;
* `Server.UpTo.gains`: what is stored under the next number is new;
* `Archive.create_all_or_nothing`: the making of a record, command by command.
-/
import Critique.Proofs.Store.Keeping

namespace Critique

open Remote

/-! ## 1. What is refused -/

/-- The command that the server behind a store is made to refuse, with its words. -/
def Store.failing? : Store → Option (Command × String)
  | .memory _ => none
  | .remote s => s.failing

/-- One of the two commands that make a record is refused. -/
def Store.Refuses (s : Store) (message : String) : Prop :=
  s.failing? = some (.countUp, message) ∨ s.failing? = some (.commit, message)

/-- Where no command is made to fail, none of the two that make a record is refused. -/
theorem Store.Working.not_refuses {s : Store} (h : s.Working) (message : String) :
    ¬ s.Refuses message := by
  cases s with
  | memory m => simp [Refuses, failing?]
  | remote server =>
    have hfailing : server.failing = none := h
    simp [Refuses, failing?, hfailing]

namespace Server

variable {s : Server} {command : Command} {message : String}

theorem permit_of_failing (h : s.failing = some (command, message)) :
    s.permit command = .error (.refused message) := by
  rw [permit, h]
  exact if_pos rfl

theorem permit_of_not_failing (h : ∀ message, s.failing ≠ some (command, message)) :
    s.permit command = .ok () := by
  unfold permit
  split
  · next failing message hfailing =>
    refine if_neg fun he => h message ?_
    rw [hfailing, he]
  · rfl

end Server

/-- **A refused batch costs a number and nothing else.** -/
theorem Remote.create_dropped {s : Server} {message : String}
    (h : s.failing = some (.commit, message)) {n : Int}
    (hread : Numeral.read ((s.text? counterKey).getD "0") = .ok n) (hshort : Numeral.Short (n + 1))
    (clock : Clock) (code language : String) (report : Report) :
    create s clock code language report =
      (.error (.refused message), s.setText counterKey (Numeral.text (n + 1)), clock.tick) := by
  have hcount : s.permit .countUp = .ok () := Server.permit_of_not_failing (by simp [h])
  have hbatch : (s.setText counterKey (Numeral.text (n + 1))).permit .commit =
      .error (.refused message) := Server.permit_of_failing h
  rw [create, countUp_next hcount hread hshort]
  simp only [commit_refused hbatch]

/-! ## 2. What is added -/

/-- A server has gained a record: it is stored under a key and scored under a member that are both
new, and apart from the counter nothing else is different. -/
structure Server.Gains (r : Record) (s s' : Server) : Prop where
  newKey : s.text? (recordKey r.id) = none
  newMember : Numeral.text r.id ∉ s.index.map Prod.fst
  stored : s'.text? (recordKey r.id) = some (encode r)
  others : ∀ key, key ≠ counterKey → key ≠ recordKey r.id → s'.text? key = s.text? key
  index : s'.index = s.index ++ [(Numeral.text r.id, r.id)]

/-- Apart from the counter, a server is the same. -/
structure Server.Same (s s' : Server) : Prop where
  texts : ∀ key ≠ counterKey, s'.text? key = s.text? key
  index : s'.index = s.index

/-- A store has gained exactly one record, which is new. -/
inductive Store.Gains (r : Record) : Store → Store → Prop
  | memory {m : Memory} (new : ∀ q ∈ m.records, q.id ≠ r.id) :
      Gains r (.memory m) (.memory ⟨m.records ++ [r]⟩)
  | remote {s s' : Server} (gains : s.Gains r s') : Gains r (.remote s) (.remote s')

/-- The records of a store, and its index where it has one, are the same. -/
inductive Store.Same : Store → Store → Prop
  | memory (m : Memory) : Same (.memory m) (.memory m)
  | remote {s s' : Server} (same : s.Same s') : Same (.remote s) (.remote s')

/-- The counter of a server tells `n`, and nothing is stored or scored under a number beyond. -/
structure Server.UpTo (n : Nat) (s : Server) : Prop where
  counter : Numeral.read ((s.text? counterKey).getD "0") = .ok (n : Int)
  texts : ∀ id, (s.text? (recordKey id)).isSome → id ≤ n
  members : ∀ member ∈ s.index.map Prod.fst, ∃ id, member = Numeral.text id ∧ id ≤ n

/-- The numbers up to `n` have been handed out, and nothing is kept under a number beyond. -/
def Store.UpTo (n : Nat) : Store → Prop
  | .memory m => m.size = n ∧ ∀ r ∈ m.records, r.id ≤ n
  | .remote s => s.UpTo n

theorem Store.IsFresh.upTo {s : Store} (h : s.IsFresh) : s.UpTo 0 := by
  rcases h with rfl | rfl
  · exact ⟨rfl, fun r hr => absurd hr List.not_mem_nil⟩
  · exact ⟨Store.IsFresh.lastNumber (.inr rfl),
      fun id hid => by simp [Server.text?, Server.empty, Entries.find?] at hid,
      fun member hmember => absurd hmember List.not_mem_nil⟩

namespace Server

variable {s : Server} {n : Nat} {r : Record}

/-- A count hands out one more number. -/
theorem UpTo.counted (h : s.UpTo n) (short : Numeral.Short ((n : Int) + 1)) :
    (s.setText counterKey (Numeral.text ((n : Int) + 1))).UpTo (n + 1) where
  counter := by
    rw [text?_setText, Option.getD_some, Numeral.read_text short]
    rfl
  texts id hid := by
    rw [text?_setText_of_ne s (recordKey_ne_counterKey id)] at hid
    have hle := h.texts id hid
    omega
  members member hmember := by
    obtain ⟨id, hid, hle⟩ := h.members member hmember
    exact ⟨id, hid, by omega⟩

/-- The next number is no member of the index. -/
theorem UpTo.notMem_index (h : s.UpTo n) {id : Int} (next : id = n + 1) :
    Numeral.text id ∉ s.index.map Prod.fst := by
  intro hmember
  obtain ⟨other, hother, hle⟩ := h.members _ hmember
  have heq := Numeral.text_injective hother
  omega

/-- **What is stored under the next number is new.** -/
theorem UpTo.gains (h : s.UpTo n) (next : r.id = n + 1) : s.Gains r (s.withRecord r) where
  newKey := by
    cases hkey : s.text? (recordKey r.id) with
    | none => rfl
    | some text =>
      have hle := h.texts r.id (by rw [hkey]; rfl)
      omega
  newMember := h.notMem_index next
  stored := s.text?_withRecord_recordKey r
  others key hcounter hrecord :=
    (text?_setText_of_ne _ hrecord _).trans (text?_setText_of_ne _ hcounter _)
  index := Entries.set_of_notMem (h.notMem_index next) _

/-- A record that is stored takes up one more number. -/
theorem UpTo.withRecord (h : s.UpTo n) (next : r.id = n + 1) (short : Numeral.Short r.id) :
    (s.withRecord r).UpTo (n + 1) where
  counter := by
    rw [text?_withRecord_counterKey, Option.getD_some, Numeral.read_text short, next]
    rfl
  texts id hid := by
    by_cases heq : id = r.id
    · omega
    · rw [s.text?_withRecord_of_ne heq] at hid
      have hle := h.texts id hid
      omega
  members member hmember := by
    rw [(h.gains next).index, List.map_append, List.mem_append, List.map_singleton,
      List.mem_singleton] at hmember
    rcases hmember with hold | rfl
    · obtain ⟨id, hid, hle⟩ := h.members member hold
      exact ⟨id, hid, by omega⟩
    · exact ⟨r.id, rfl, by omega⟩

end Server

/-! ## 3. Making a record -/

/-- **A record is added, or none is and the records are the same**; and none is added exactly where
one of the two commands that make a record is refused. -/
theorem Archive.create_all_or_nothing {a : Archive} {n : Nat} (h : a.store.UpTo n)
    (short : Numeral.Short ((n : Int) + 1)) (code language : String) (report : Report) :
    (∃ r a', a.create code language report = (.ok r, a') ∧
        r = Record.ofReport (n + 1) code language report a.clock.now ∧
        a.store.Gains r a'.store ∧ a'.store.UpTo (n + 1) ∧ ∀ message, ¬ a.store.Refuses message) ∨
      ∃ message a', a.create code language report = (.error (.refused message), a') ∧
        a.store.Refuses message ∧ a.store.Same a'.store ∧
        (a'.store.UpTo n ∨ a'.store.UpTo (n + 1)) := by
  obtain ⟨store, clock⟩ := a
  cases store with
  | memory m =>
    obtain ⟨rfl, hids⟩ := h
    refine .inl ⟨_, _, rfl, rfl, .memory fun q hq heq => ?_,
      ⟨m.size_create code language report clock.now, fun q hq => ?_⟩, ?_⟩
    · have hle := hids q hq
      have hnext : q.id = (m.size : Int) + 1 := heq
      omega
    · rcases List.mem_append.mp hq with hold | hnew
      · have hle := hids q hold
        omega
      · obtain rfl := List.mem_singleton.mp hnew
        exact Int.le_refl _
    · simp [Store.Refuses, Store.failing?]
  | remote s =>
    have hserver : s.UpTo n := h
    by_cases hcount : ∃ message, s.failing = some (.countUp, message)
    · obtain ⟨message, hcount⟩ := hcount
      have hcreate := create_refused hcount clock code language report
      exact .inr ⟨message, ⟨.remote s, clock⟩, by simp only [create, hcreate], .inl hcount,
        .remote ⟨fun _ _ => rfl, rfl⟩, .inl h⟩
    by_cases hbatch : ∃ message, s.failing = some (.commit, message)
    · obtain ⟨message, hbatch⟩ := hbatch
      have hcreate := create_dropped hbatch hserver.counter short clock code language report
      exact .inr ⟨message, ⟨.remote _, clock.tick⟩, by simp only [create, hcreate], .inr hbatch,
        .remote ⟨fun key hkey => Server.text?_setText_of_ne s hkey _, rfl⟩,
        .inr (hserver.counted short)⟩
    · have hcreate := create_eq
        (Server.permit_of_not_failing fun message h => hcount ⟨message, h⟩)
        (Server.permit_of_not_failing fun message h => hbatch ⟨message, h⟩)
        hserver.counter short clock code language report
      refine .inl ⟨_, ⟨.remote _, clock.tick⟩, by simp only [create, hcreate], rfl,
        .remote (hserver.gains rfl), hserver.withRecord rfl short, fun message hrefuses => ?_⟩
      rcases hrefuses with h | h
      · exact hcount ⟨message, h⟩
      · exact hbatch ⟨message, h⟩

/-! ## 4. Numbers in use -/

/-- No more than `n` numbers have been handed out. -/
def Store.Within (n : Nat) (s : Store) : Prop :=
  ∃ m ≤ n, s.UpTo m

theorem Store.Within.mono {s : Store} {n more : Nat} (h : s.Within n) (hle : n ≤ more) :
    s.Within more := by
  obtain ⟨m, hm, upTo⟩ := h
  exact ⟨m, Nat.le_trans hm hle, upTo⟩

/-- The number after one that is in use is short if the next one is. -/
theorem short_succ_of_le {m n : Nat} (h : m ≤ n) (short : Numeral.Short ((n : Int) + 1)) :
    Numeral.Short ((m : Int) + 1) :=
  Numeral.short_of_le (Nat.succ_le_succ h) short

/-- Whether a record is made or not, one more number is in use at most. -/
theorem Archive.create_within {a : Archive} {n : Nat} (h : a.store.Within n)
    (short : Numeral.Short ((n : Int) + 1)) (code language : String) (report : Report) :
    (a.create code language report).2.store.Within (n + 1) := by
  obtain ⟨m, hm, upTo⟩ := h
  rcases create_all_or_nothing upTo (short_succ_of_le hm short) code language report with
    ⟨r, a', hcreate, -, -, hafter, -⟩ | ⟨message, a', hcreate, -, -, hafter | hafter⟩
  · rw [hcreate]
    exact ⟨m + 1, Nat.succ_le_succ hm, hafter⟩
  · rw [hcreate]
    exact ⟨m, Nat.le_succ_of_le hm, hafter⟩
  · rw [hcreate]
    exact ⟨m + 1, Nat.succ_le_succ hm, hafter⟩

/-- To make a command fail takes no number. -/
theorem Archive.within_fail {a : Archive} {n : Nat} (failing : Option (Command × String))
    (h : a.store.Within n) : (a.handle (.fail failing)).store.Within n := by
  obtain ⟨store, clock⟩ := a
  cases store with
  | memory m => exact h
  | remote s =>
    obtain ⟨last, hlast, hserver⟩ := h
    exact ⟨last, hlast, hserver.counter, hserver.texts, hserver.members⟩

end Critique
