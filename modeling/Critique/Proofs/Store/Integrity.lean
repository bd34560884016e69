/-
# The server is intact after every run

Commands of the server may fail at any time, so numbers are lost and a record may stop half way.
What is on the server is nevertheless known from outside, from what was handed out and returned
(`Intact`): under each number there is a record and a member of the index if the making that was
handed the number returned, and there is neither if it did not; the counter counts the numbers that
were handed out.  What is asked for in between does not matter, however long its number is: one of
more than 4300 digits is refused and was never handed out.

The proof goes through the ledger of the server.  A ledger and a list of attempts trace each other
(`Traced`) where the numbers handed out are those of the ledger, gaps included, and the records
returned are the ones it keeps.  Each case of `Remote.create_cases` adds one attempt and keeps this
(`Traced.created`); no other event adds anything.

* `Sound.handle`: one event keeps what a run relies on;
* `Sound.intact`: what a run relies on is enough to know the server from outside;
* `run_intact`: after every part of a run the server is intact.
-/
import Critique.Proofs.Store.Run
import Mathlib.Data.List.Nodup

namespace Critique

open Remote

/-! ## 1. The server from outside -/

/-- Some making of a record was handed the number and returned the record. -/
def Returned (attempts : List Attempt) (number : Int) (r : Record) : Prop :=
  ⟨some number, .ok r⟩ ∈ attempts

/-- The numbers that were handed out, whether or not a record was made. -/
def numbers (attempts : List Attempt) : List Int :=
  attempts.filterMap Attempt.number?

/-- The records that were returned. -/
def records (attempts : List Attempt) : List Record :=
  attempts.filterMap fun attempt => attempt.outcome.toOption

/-- What is on a server is known from the attempts to make a record. -/
structure Intact (s : Server) (attempts : List Attempt) : Prop where
  /-- A number has a text if the attempt that was handed it returned. -/
  text_iff : ∀ number > 0,
    (s.text? (recordKey number)).isSome ↔ ∃ r, Returned attempts number r
  /-- A number is in the index if the attempt that was handed it returned. -/
  member_iff : ∀ number > 0,
    Numeral.text number ∈ s.index.map Prod.fst ↔ ∃ r, Returned attempts number r
  /-- A member is scored by its number. -/
  score : ∀ number score, (Numeral.text number, score) ∈ s.index → score = number
  /-- The text of a number is read as the record that was returned. -/
  decodes : ∀ number r, Returned attempts number r →
    r.id = number ∧ ∃ text, s.text? (recordKey number) = some text ∧ decode text = .ok r
  keys : ∀ key, (s.text? key).isSome → key = counterKey ∨ ∃ number > 0, key = recordKey number
  members : ∀ member ∈ s.index.map Prod.fst, ∃ number > 0, member = Numeral.text number
  distinct : (s.index.map Prod.fst).Nodup
  /-- The counter tells how many numbers were handed out, and is not there before the first. -/
  counter : s.text? counterKey =
    if numbers attempts = [] then none else some (Numeral.text (numbers attempts).length)
  /-- Every number is greater than all that were handed out before it. -/
  rising : (numbers attempts).Pairwise (· < ·)
  /-- An attempt that fails now changes the counter at most. -/
  frame : ∀ clock code language report error,
    (create s clock code language report).1 = .error error →
      (create s clock code language report).2.1.index = s.index ∧
        ∀ key ≠ counterKey, (create s clock code language report).2.1.text? key = s.text? key
  /-- A number of too many digits is refused, and was never handed out. -/
  long : ∀ number, ¬ Numeral.Short number →
    get s number = .error (.numeral .unwritable) ∧ number ∉ numbers attempts
  /-- Unless texts cannot be fetched, a number finds the record that was returned, or nothing. -/
  get : s.permit .fetch = .ok () → ∀ number, Numeral.Short number →
    ∃ found, get s number = .ok found ∧ ∀ r, found = some r ↔ Returned attempts number r
  /-- Unless texts or members cannot be fetched, a listing is the records that were returned, the
  last one first, cut by the limit. -/
  recent : s.permit .fetch = .ok () → s.permit .highest = .ok () →
    ∀ limit, recent s limit = .ok (slice limit (records attempts).reverse)

/-! ## 2. Ledgers and attempts -/

/-- A ledger and the attempts that it comes from. -/
structure Traced (attempts : List Attempt) (l : Ledger) : Prop where
  numbers : numbers attempts = (List.range l.length).map fun k : Nat => (k : Int) + 1
  returned : ∀ number r, Returned attempts number r ↔ l.find? number = some r
  records : records attempts = l.kept

theorem traced_nil : Traced [] [] where
  numbers := rfl
  returned number r := by simp [Returned]
  records := rfl

variable {attempts : List Attempt} {s : Server} {l : Ledger} {c : Clock}

/-- An attempt that was handed no number leaves no trace. -/
theorem Traced.unnumbered (h : Traced attempts l) (error : StoreError) :
    Traced (attempts ++ [⟨none, .error error⟩]) l where
  numbers := by
    rw [Critique.numbers, List.filterMap_append, ← Critique.numbers, h.numbers]
    exact List.append_nil _
  returned number r := by
    rw [← h.returned, Returned, List.mem_append, List.mem_singleton, Attempt.mk.injEq]
    simp [Returned]
  records := by
    rw [Critique.records, List.filterMap_append, ← Critique.records, h.records]
    exact List.append_nil _

/-- An attempt that was handed the next number adds its outcome to the ledger. -/
theorem Traced.numbered (h : Traced attempts l) (outcome : Except StoreError Record) :
    Traced (attempts ++ [⟨some (l.length + 1), outcome⟩]) (l ++ [outcome.toOption]) where
  numbers := by
    rw [Critique.numbers, List.filterMap_append, ← Critique.numbers, h.numbers, List.length_append,
      List.length_singleton, List.range_succ, List.map_append]
    rfl
  returned number r := by
    have houtcome : outcome.toOption = some r ↔ outcome = .ok r := by
      cases outcome <;> simp [Except.toOption]
    rw [Ledger.find?_append, Returned, List.mem_append, List.mem_singleton, Attempt.mk.injEq,
      Option.some.injEq]
    change Returned attempts number r ∨ _ ↔ _
    rw [h.returned]
    by_cases hnumber : number = l.length + 1
    · rw [if_pos hnumber, houtcome, hnumber, Ledger.find?_next]
      simp [eq_comm]
    · rw [if_neg hnumber]
      simp [hnumber]
  records := by
    rw [Critique.records, List.filterMap_append, ← Critique.records, h.records, Ledger.kept_append]
    cases outcome <;> rfl

/-- Each way in which the making of a record can go is traced. -/
theorem Traced.created {s' : Server} {l' : Ledger} {c' : Clock} {r : Record}
    {number : Option Int} {outcome : Except StoreError Record} (h : Traced attempts l)
    (hid : r.id = l.length + 1) (hcreated : Created s l c r number outcome s' l' c') :
    Traced (attempts ++ [⟨number, outcome⟩]) l' := by
  cases hcreated with
  | refused => exact h.unnumbered _
  | dropped =>
    rw [hid]
    exact h.numbered (.error _)
  | stored =>
    have := h.numbered (.ok r)
    rwa [← hid] at this

/-! ## 3. Runs -/

/-- What a run relies on where so many records are still to be made. -/
structure Sound (s : Server) (l : Ledger) (c : Clock) (attempts : List Attempt) (count : Nat) :
    Prop where
  holds : Holds s l
  traced : Traced attempts l
  years : c.InYears count
  room : l.length + count < 2 ^ 63

/-- Which command fails is no part of what a server holds. -/
theorem Remote.Holds.fail (h : Holds s l) (failing : Option (Command × String)) :
    Holds { s with failing := failing } l :=
  ⟨h.counter, h.texts, h.keys, h.index, h.numbered, h.writable⟩

/-- The making of a record keeps what a run relies on. -/
theorem Sound.create {count : Nat} (h : Sound s l c attempts (count + 1)) (code language : String)
    {report : Report} (hreport : report.Writable) :
    ∃ outcome s' l' c', Remote.create s c code language report = (outcome, s', c') ∧
      Sound s' l' c' (attempts ++ [⟨handed? s, outcome⟩]) count := by
  have hroom := h.room
  obtain ⟨number, outcome, s', l', c', hnumber, hcreate, -, hcases⟩ :=
    create_cases h.holds (by omega) code language hreport h.years.fits
  refine ⟨outcome, s', l', c', hcreate, ?_⟩
  rw [hnumber]
  have htraced := h.traced.created rfl hcases
  cases hcases with
  | refused _ holds => exact ⟨holds, htraced, h.years.mono (Nat.le_succ count), by omega⟩
  | dropped _ holds => exact ⟨holds, htraced, h.years.tick, by simp; omega⟩
  | stored holds => exact ⟨holds, htraced, h.years.tick, by simp; omega⟩

/-- **One event keeps what a run relies on.** -/
theorem Sound.handle {count : Nat} {event : Event}
    (h : Sound s l c attempts (event.creates + count)) (bounded : event.Bounded) :
    ∃ s' l' c', (⟨.remote s, c⟩ : Archive).handle event = ⟨.remote s', c'⟩ ∧
      Sound s' l' c' (attempts ++ ((⟨.remote s, c⟩ : Archive).attempt? event).toList) count := by
  cases event with
  | fail failing =>
    rw [Event.creates, Nat.zero_add] at h
    refine ⟨_, l, c, rfl, ?_⟩
    rw [Archive.attempt?, Option.toList_none, List.append_nil]
    · exact ⟨h.holds.fail failing, h.traced, h.years, h.room⟩
    · simp
  | perform operation =>
    cases operation with
    | create code language report =>
      rw [Event.creates, Operation.creates, Nat.add_comm] at h
      obtain ⟨outcome, s', l', c', hcreate, hsound⟩ := h.create code language bounded
      refine ⟨s', l', c', ?_, ?_⟩
      · simp only [Archive.handle, Archive.perform, Archive.create, hcreate]
      · simpa only [Archive.attempt?, Archive.create, hcreate, Option.toList_some] using hsound
    | get id =>
      rw [Event.creates, Operation.creates, Nat.zero_add] at h
      refine ⟨s, l, c, rfl, ?_⟩
      simpa [Archive.attempt?] using h
    | recent limit =>
      rw [Event.creates, Operation.creates, Nat.zero_add] at h
      refine ⟨s, l, c, rfl, ?_⟩
      simpa [Archive.attempt?] using h

/-- A run keeps what it relies on. -/
theorem Sound.run {events : List Event} (h : Sound s l c attempts (creates events))
    (bounded : ∀ event ∈ events, event.Bounded) :
    ∃ s' l' c', (⟨.remote s, c⟩ : Archive).run events = ⟨.remote s', c'⟩ ∧
      Sound s' l' c' (attempts ++ (⟨.remote s, c⟩ : Archive).attempts events) 0 := by
  induction events generalizing s l c attempts with
  | nil =>
    refine ⟨s, l, c, rfl, ?_⟩
    rw [Archive.attempts, List.append_nil]
    exact h
  | cons event events ih =>
    rw [List.forall_mem_cons] at bounded
    rw [creates_cons] at h
    obtain ⟨s', l', c', hhandle, hsound⟩ := h.handle bounded.1
    obtain ⟨s'', l'', c'', hrun, hafter⟩ := ih hsound bounded.2
    refine ⟨s'', l'', c'', ?_, ?_⟩
    · rw [Archive.run, List.foldl_cons, hhandle]
      exact hrun
    · rw [Archive.attempts, hhandle, ← List.append_assoc]
      exact hafter

/-! ## 4. What can be seen -/

/-- The names in the index are the numbers under which the ledger finds a record. -/
theorem Remote.Holds.mem_names (h : Holds s l) {name : String} :
    name ∈ s.index.map Prod.fst ↔ ∃ number, (l.find? number).isSome ∧ name = Numeral.text number := by
  rw [h.index, List.map_map, List.mem_map]
  constructor
  · rintro ⟨r, hr, rfl⟩
    refine ⟨r.id, ?_, rfl⟩
    rw [h.numbered.find?_id hr]
    rfl
  · rintro ⟨number, hfound, rfl⟩
    obtain ⟨r, hr⟩ := Option.isSome_iff_exists.mp hfound
    refine ⟨r, Ledger.mem_kept.mpr ⟨number, hr⟩, ?_⟩
    rw [← h.numbered number r hr]
    rfl

/-- A number that finds a record is the number of an attempt that returned. -/
theorem Traced.isSome_find? (h : Traced attempts l) (number : Int) :
    (l.find? number).isSome ↔ ∃ r, Returned attempts number r := by
  rw [Option.isSome_iff_exists]
  exact exists_congr fun r => (h.returned number r).symm

/-- **What a run relies on is enough** to know the server from outside. -/
theorem Sound.intact (h : Sound s l c attempts 0) : Intact s attempts where
  text_iff number _ := by
    rw [h.holds.texts, Option.isSome_map, h.traced.isSome_find?]
  member_iff number _ := by
    rw [h.holds.mem_names, ← h.traced.isSome_find?]
    constructor
    · rintro ⟨other, hfound, htext⟩
      rwa [Numeral.text_injective htext]
    · exact fun hfound => ⟨number, hfound, rfl⟩
  score number score hmem := by
    rw [h.holds.index] at hmem
    obtain ⟨r, -, hr⟩ := List.mem_map.mp hmem
    rw [Prod.mk.injEq] at hr
    rw [← hr.2, Numeral.text_injective hr.1]
  decodes number r hr := by
    have hfind := (h.traced.returned number r).mp hr
    refine ⟨h.holds.numbered number r hfind, encode r, ?_, ?_⟩
    · rw [h.holds.texts, hfind]
      rfl
    · exact decode_encode (h.holds.writable r (Ledger.mem_kept.mpr ⟨number, hfind⟩))
  keys key hkey := by
    rcases h.holds.keys key hkey with hcounter | ⟨number, rfl⟩
    · exact .inl hcounter
    · rw [h.holds.texts, Option.isSome_map] at hkey
      exact .inr ⟨number, Ledger.pos_of_isSome hkey, rfl⟩
  members member hmember := by
    obtain ⟨number, hfound, rfl⟩ := h.holds.mem_names.mp hmember
    exact ⟨number, Ledger.pos_of_isSome hfound, rfl⟩
  distinct := by
    rw [h.holds.index, List.map_map]
    refine List.pairwise_map.mpr (h.holds.numbered.pairwise_kept.imp fun {a b} hlt htext => ?_)
    have := Numeral.text_injective htext
    omega
  counter := by
    rw [h.holds.counter, h.traced.numbers, List.length_map, List.length_range]
    simp [List.range_eq_nil]
  rising := by
    rw [h.traced.numbers]
    refine List.pairwise_map.mpr (List.pairwise_lt_range.imp fun {i j} hlt => ?_)
    omega
  frame _ _ _ _ _ herror := create_error herror
  get fetched number short :=
    ⟨l.find? number, get_eq h.holds fetched short, fun r => (h.traced.returned number r).symm⟩
  long number hlong := by
    refine ⟨get_of_long s hlong, fun hmem => hlong ?_⟩
    rw [h.traced.numbers] at hmem
    obtain ⟨k, hk, rfl⟩ := List.mem_map.mp hmem
    have hroom := h.room
    have hlt := List.mem_range.mp hk
    exact Numeral.short_of_lt (by omega)
  recent fetched listed limit := by
    rw [h.traced.records]
    exact recent_eq h.holds fetched listed h.room limit

/-- **The server is intact after every part of a run**: whatever records are made, asked for and
listed on an empty server, and whatever commands fail in between. -/
theorem run_intact {reading : Nat → Int} {events : List Event}
    (years : Clock.InYears ⟨reading, 0⟩ (creates events)) (few : creates events < 2 ^ 63)
    (bounded : ∀ event ∈ events, event.Bounded) :
    ∀ soFar, soFar <+: events →
      ∃ s, ((⟨.remote .empty, ⟨reading, 0⟩⟩ : Archive).run soFar).store = .remote s ∧
        Intact s ((⟨.remote .empty, ⟨reading, 0⟩⟩ : Archive).attempts soFar) := by
  rintro soFar ⟨rest, rfl⟩
  rw [creates_append] at years few
  have hsound : Sound .empty [] ⟨reading, 0⟩ [] (creates soFar) :=
    { holds := holds_empty
      traced := traced_nil
      years := years.mono (Nat.le_add_right _ _)
      room := by simp; omega }
  obtain ⟨s, l, c, hrun, hafter⟩ :=
    hsound.run fun event hevent => bounded event (List.mem_append_left rest hevent)
  refine ⟨s, ?_, hafter.intact⟩
  rw [hrun]

/-- Of four makings the second loses its batch and the third its count. -/
theorem run_intact_of_four :
    let create : Event := .perform (.create "x = 1" "python" ⟨85, [], none, .zero⟩)
    let events : List Event :=
      [create, .fail (some (.commit, "timeout")), create, .fail (some (.countUp, "timeout")),
        create, .perform (.get 2), .fail none, create, .perform (.recent (-1))]
    ∃ s, ((⟨.remote .empty, ⟨fun _ => 0, 0⟩⟩ : Archive).run events).store = .remote s ∧
      Intact s ((⟨.remote .empty, ⟨fun _ => 0, 0⟩⟩ : Archive).attempts events) := by
  refine run_intact ?_ (by decide) ?_ _ (List.prefix_refl _)
  · intro k _
    show 1 ≤ (Time.Stamp.ofInstant 0).date.year ∧ (Time.Stamp.ofInstant 0).date.year ≤ 9999
    decide
  · have hreport : Report.Writable ⟨85, [], none, .zero⟩ :=
      ⟨Numeral.short_of_lt (by decide), by simp⟩
    simp [Event.Bounded, Operation.Bounded, hreport]

end Critique
