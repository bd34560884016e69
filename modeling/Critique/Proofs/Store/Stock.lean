/-
# What a store keeps can be read back

A store is asked for the record of a number, and there are three answers: a record, none, or the
refusal of the command that fetches texts.  A fourth is thinkable on a server, where a record is a
text: one that is no record, or is that of another number.  It does not come about (`Store.Orderly`),
because a text gets under the key of a number only as the record that was made with this number, and
all that is asked of the record is that it could be written.

Which commands the server refuses does not matter to this.  The making of a record adds one or
changes nothing but the counter (`Store.Gains`, `Store.Same`), so the records that are in order stay
so; what it takes is that the next number and the time of day can be written (`Archive.Tended`).

* `Store.Gains.orderly` and `Store.Same.orderly`: making a record leaves a store in order;
* `Archive.Tended.create` and `Archive.Tended.fail`: what an archive is, whatever is done to it;
* `Archive.get_cases`: what a number finds.
-/
import Critique.Proofs.Store.Making

namespace Critique

open Remote

/-! ## 1. Stores in order -/

/-- Whatever a store keeps can be read back: its records could be written, and on a server the text
under the key of a number is that of a record with this number. -/
def Store.Orderly : Store → Prop
  | .memory m => ∀ r ∈ m.records, r.Writable
  | .remote s => ∀ id text, s.text? (recordKey id) = some text →
      ∃ r, r.id = id ∧ r.Writable ∧ text = encode r

namespace Store

variable {s s' : Store} {r : Record}

theorem IsFresh.orderly (h : s.IsFresh) : s.Orderly := by
  rcases h with rfl | rfl
  · exact fun r hr => absurd hr List.not_mem_nil
  · exact fun id text htext => by simp [Server.text?, Server.empty, Entries.find?] at htext

/-- **A record that can be written leaves a store in order.** -/
theorem Gains.orderly (h : s.Gains r s') (orderly : s.Orderly) (writable : r.Writable) :
    s'.Orderly := by
  cases h with
  | memory new =>
    intro q hq
    rcases List.mem_append.mp hq with hold | hnew
    · exact orderly q hold
    · obtain rfl := List.mem_singleton.mp hnew
      exact writable
  | remote gains =>
    intro id text htext
    by_cases hid : id = r.id
    · rw [hid, gains.stored] at htext
      exact ⟨r, hid.symm, writable, (Option.some.inj htext).symm⟩
    · rw [gains.others _ (recordKey_ne_counterKey id) fun hkey => hid (recordKey_injective hkey)]
        at htext
      exact orderly id text htext

/-- A store in which the records are the same is in order as before. -/
theorem Same.orderly (h : s.Same s') (orderly : s.Orderly) : s'.Orderly := by
  cases h with
  | memory m => exact orderly
  | remote same =>
    intro id text htext
    rw [same.texts _ (recordKey_ne_counterKey id)] at htext
    exact orderly id text htext

end Store

/-! ## 2. What is done to an archive -/

/-- No more than so many numbers have been handed out, what is kept can be read back, and so many
more readings of the clock can be written. -/
structure Archive.Tended (a : Archive) (handed more : Nat) : Prop where
  within : a.store.Within handed
  orderly : a.store.Orderly
  years : a.clock.InYears more

namespace Archive

variable {a : Archive} {handed more : Nat}

/-- The clock is read once for a record, or not at all. -/
theorem clock_create (a : Archive) (code language : String) (report : Report) :
    (a.create code language report).2.clock = a.clock ∨
      (a.create code language report).2.clock = a.clock.tick := by
  obtain ⟨store, clock⟩ := a
  cases store with
  | memory m => exact .inr rfl
  | remote s =>
    simp only [create, Remote.create]
    split
    · exact .inl rfl
    · split
      · exact .inr rfl
      · exact .inr rfl

theorem Tended.mono (h : a.Tended handed (more + 1)) : a.Tended (handed + 1) more :=
  ⟨h.within.mono (Nat.le_succ handed), h.orderly, h.years.mono (Nat.le_succ more)⟩

/-- **Whether a record is made or not, the archive is in order.** -/
theorem Tended.create (h : a.Tended handed (more + 1))
    (short : Numeral.Short ((handed : Int) + 1)) (code language : String) {report : Report}
    (writable : report.Writable) : (a.create code language report).2.Tended (handed + 1) more := by
  refine ⟨create_within h.within short code language report, ?_, ?_⟩
  · obtain ⟨last, hlast, upTo⟩ := h.within
    have hshort := short_succ_of_le hlast short
    rcases create_all_or_nothing upTo hshort code language report with
      ⟨r, a', hcreate, hrecord, hgains, -⟩ | ⟨message, a', hcreate, -, hsame, -⟩
    · rw [hcreate]
      refine hgains.orderly h.orderly ?_
      rw [hrecord]
      exact Record.writable_ofReport hshort writable h.years.fits code language
    · rw [hcreate]
      exact hsame.orderly h.orderly
  · rcases a.clock_create code language report with hclock | hclock
    · rw [hclock]
      exact h.years.mono (Nat.le_succ more)
    · rw [hclock]
      exact h.years.tick

/-- Which command fails is no matter of order. -/
theorem Tended.fail (h : a.Tended handed more) (failing : Option (Command × String)) :
    (a.handle (.fail failing)).Tended handed more := by
  refine ⟨within_fail failing h.within, ?_, ?_⟩
  · obtain ⟨store, clock⟩ := a
    cases store with
    | memory m => exact h.orderly
    | remote s => exact fun id text htext => h.orderly id text htext
  · obtain ⟨store, clock⟩ := a
    cases store with
    | memory m => exact h.years
    | remote s => exact h.years

/-- **What a number finds**: the record that has it, nothing, or the refusal to fetch texts. -/
theorem get_cases (orderly : a.store.Orderly) {id : Int} (short : Numeral.Short id) :
    (∃ r, a.get id = .ok (some r) ∧ r.id = id ∧ r.Writable) ∨ a.get id = .ok none ∨
      ∃ message, a.store.failing? = some (.fetch, message) ∧
        a.get id = .error (.refused message) := by
  obtain ⟨store, clock⟩ := a
  cases store with
  | memory m =>
    cases hfind : m.records.find? (·.id == id) with
    | none => exact .inr (.inl (congrArg Except.ok hfind))
    | some r =>
      have hid := List.find?_some hfind
      exact .inl ⟨r, congrArg Except.ok hfind, eq_of_beq hid,
        orderly r (List.mem_of_find?_eq_some hfind)⟩
  | remote s =>
    have hkey := writtenKey_of_short short
    by_cases hfetch : ∃ message, s.failing = some (.fetch, message)
    · obtain ⟨message, hfailing⟩ := hfetch
      refine .inr (.inr ⟨message, hfailing, ?_⟩)
      simp only [get, Remote.get, hkey, Server.fetch, Server.permit_of_failing hfailing, bind,
        Except.bind]
    have hpermit : s.permit .fetch = .ok () :=
      Server.permit_of_not_failing fun message h => hfetch ⟨message, h⟩
    cases htext : s.text? (recordKey id) with
    | none =>
      refine .inr (.inl ?_)
      simp only [get, Remote.get, hkey, Server.fetch, hpermit, htext, bind, Except.bind, pure,
        Except.pure]
    | some text =>
      obtain ⟨r, hid, hr, rfl⟩ := orderly id text htext
      refine .inl ⟨r, ?_, hid, hr⟩
      simp only [get, Remote.get, hkey, Server.fetch, hpermit, htext, bind, Except.bind, pure,
        Except.pure, decode_encode hr]

end Archive

end Critique
