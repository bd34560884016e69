/-
# Runs of an archive

An archive is worked on by operations: records are made, asked for by number, and listed.  A run is
a list of operations, and what can be seen of it are the answers.  Where the archive is on a server,
a run may also switch the failure of a command on and off between its operations.

What a run needs of its clock is said for the readings that it can take, which are as many as there
are records to make: they show years of four digits (`Clock.InYears`), and where the order of times
matters none of them is earlier than the one before it (`Clock.Steady`).

* `creates_append`: the records that two runs make are those of the first and those of the second;
* `Archive.made_append`: so are the records that they are answered with;
* `Clock.recorded_get`: the records that are asked for, by their place;
* `Clock.InYears.fits` and `Clock.Steady.le`: what the two conditions say about a single reading.
-/
import Critique.Proofs.Store.Commands
import Critique.Store

namespace Critique

/-! ## 1. Operations and answers -/

/-- What an archive is asked to do. -/
inductive Operation where
  | create (code language : String) (report : Report)
  | get (id : Int)
  | recent (limit : Int)

/-- What an archive answers. -/
inductive Answer where
  | created (outcome : Except StoreError Record)
  | found (outcome : Except StoreError (Option Record))
  | listed (outcome : Except StoreError (List Record))

/-- What an operation hands in to be kept can be written. -/
def Operation.Bounded : Operation → Prop
  | .create _ _ report => report.Writable
  | .get _ => True
  | .recent _ => True

/-- The number that an operation asks for can be written. -/
def Operation.Asks : Operation → Prop
  | .create _ _ _ => True
  | .get id => Numeral.Short id
  | .recent _ => True

/-- How many records an operation asks for. -/
def Operation.creates : Operation → Nat
  | .create _ _ _ => 1
  | .get _ => 0
  | .recent _ => 0

namespace Archive

/-- The answer to an operation, and the archive after it. -/
def perform (a : Archive) : Operation → Answer × Archive
  | .create code language report =>
    let (outcome, a) := a.create code language report
    (.created outcome, a)
  | .get id => (.found (a.get id), a)
  | .recent limit => (.listed (a.recent limit), a)

/-- The answers to operations, one after the other. -/
def answers (a : Archive) : List Operation → List Answer
  | [] => []
  | operation :: rest => (a.perform operation).1 :: (a.perform operation).2.answers rest

end Archive

/-- The record that an answer hands over as made, if it does. -/
def Answer.made? : Answer → Option Record
  | .created (.ok r) => some r
  | .created (.error _) => none
  | .found _ => none
  | .listed _ => none

/-- The records that operations are answered with as made, in order. -/
def Archive.made (a : Archive) (operations : List Operation) : List Record :=
  (a.answers operations).filterMap Answer.made?

/-- The records that operations ask for, where `number` records are there already: each of them
with the next number and the next reading of the clock. -/
def Clock.recorded (c : Clock) (number : Nat) : List Operation → List Record
  | [] => []
  | .create code language report :: rest =>
    Record.ofReport (number + 1 : Nat) code language report c.now ::
      c.tick.recorded (number + 1) rest
  | .get _ :: rest => c.recorded number rest
  | .recent _ :: rest => c.recorded number rest

/-! ## 2. Events -/

/-- What happens to an archive on a server: an operation, or a change of the command that fails. -/
inductive Event where
  | perform (operation : Operation)
  | fail (failing : Option (Command × String))

def Event.Bounded : Event → Prop
  | .perform operation => operation.Bounded
  | .fail _ => True

def Event.creates : Event → Nat
  | .perform operation => operation.creates
  | .fail _ => 0

/-- How many records a run asks for. -/
def creates (events : List Event) : Nat :=
  (events.map Event.creates).sum

theorem creates_cons (event : Event) (events : List Event) :
    creates (event :: events) = event.creates + creates events := by
  simp [creates]

theorem creates_append (before after : List Event) :
    creates (before ++ after) = creates before + creates after := by
  simp [creates]

/-- A record that was asked for: the number that it was handed, if it was handed one, and the
outcome. -/
structure Attempt where
  number? : Option Int
  outcome : Except StoreError Record

namespace Archive

/-- The archive after an event. -/
def handle (a : Archive) : Event → Archive
  | .perform operation => (a.perform operation).2
  | .fail failing => a.onServer fun s => { s with failing := failing }

/-- The archive after a run. -/
def run (a : Archive) (events : List Event) : Archive :=
  events.foldl handle a

/-- What an event asks to be recorded, if it does. -/
def attempt? (a : Archive) : Event → Option Attempt
  | .perform (.create code language report) =>
    match a.store with
    | .memory _ => none
    | .remote s => some ⟨Remote.handed? s, (a.create code language report).1⟩
  | _ => none

/-- The records that a run asked for, in order. -/
def attempts (a : Archive) : List Event → List Attempt
  | [] => []
  | event :: rest => (a.attempt? event).toList ++ (a.handle event).attempts rest

theorem made_cons (a : Archive) (operation : Operation) (operations : List Operation) :
    a.made (operation :: operations) =
      (a.perform operation).1.made?.toList ++ (a.perform operation).2.made operations := by
  rw [made, answers, List.filterMap_cons, made]
  cases (a.perform operation).1.made? with
  | none => rfl
  | some r => rfl

/-- **What two runs make**: the records of the first, and those of the second from where the first
has ended. -/
theorem made_append (a : Archive) (before after : List Operation) :
    a.made (before ++ after) =
      a.made before ++ (a.run (before.map .perform)).made after := by
  induction before generalizing a with
  | nil => rfl
  | cons operation before ih =>
    rw [List.cons_append, made_cons, made_cons, ih, List.append_assoc]
    rfl

end Archive

/-! ## 3. Clocks, and the records that they stamp -/

namespace Clock

/-- As many records are asked for as there are operations that ask for one. -/
theorem length_recorded (c : Clock) (number : Nat) (operations : List Operation) :
    (c.recorded number operations).length = creates (operations.map .perform) := by
  induction operations generalizing c number with
  | nil => rfl
  | cons operation operations ih =>
    rw [List.map_cons, creates_cons]
    cases operation with
    | create code language report =>
      rw [recorded, List.length_cons, ih, Nat.add_comm]
      rfl
    | get id =>
      rw [recorded, ih]
      exact (Nat.zero_add _).symm
    | recent limit =>
      rw [recorded, ih]
      exact (Nat.zero_add _).symm

/-- **A record that is asked for, by its place**: its number is as many more than the numbers that
were there, and its time is the reading of that place. -/
theorem recorded_get {c : Clock} {number : Nat} {operations : List Operation} {k : Nat} {r : Record}
    (h : (c.recorded number operations)[k]? = some r) :
    r.id = (number + k + 1 : Nat) ∧ r.created.instant = c.reading (c.taken + k) := by
  induction operations generalizing c number k with
  | nil => exact absurd h (by simp [recorded])
  | cons operation operations ih =>
    cases operation with
    | create code language report =>
      rw [recorded] at h
      cases k with
      | zero =>
        obtain rfl : Record.ofReport (number + 1 : Nat) code language report c.now = r :=
          Option.some.inj h
        exact ⟨rfl, Time.ofInstant_instant _⟩
      | succ k =>
        obtain ⟨hid, htime⟩ := ih (c := c.tick) h
        refine ⟨?_, ?_⟩
        · rw [hid, Nat.add_right_comm number 1 k, Nat.add_assoc number k 1]
        · rw [htime]
          show c.reading (c.taken + 1 + k) = _
          rw [Nat.add_right_comm c.taken 1 k, Nat.add_assoc c.taken k 1]
    | get id => exact ih h
    | recent limit => exact ih h

/-- The next so many readings are in the years from 1 to 9999. -/
def InYears (c : Clock) (count : Nat) : Prop :=
  ∀ k < count, 1 ≤ (Time.Stamp.ofInstant (c.reading (c.taken + k))).date.year ∧
    (Time.Stamp.ofInstant (c.reading (c.taken + k))).date.year ≤ 9999

/-- None of the next so many readings is earlier than the one before it. -/
def Steady (c : Clock) (count : Nat) : Prop :=
  ∀ k, k + 1 < count → c.reading (c.taken + k) ≤ c.reading (c.taken + (k + 1))

variable {c : Clock} {count : Nat}

/-- The next reading can be written. -/
theorem InYears.fits (h : c.InYears (count + 1)) : c.now.Fits := by
  obtain ⟨hpos, hle⟩ := h 0 (Nat.succ_pos count)
  exact ⟨hpos, hle, by simp [now, Time.Stamp.ofInstant, Time.ZoneFits]⟩

theorem InYears.tick (h : c.InYears (count + 1)) : c.tick.InYears count := by
  intro k hk
  have := h (k + 1) (Nat.succ_lt_succ hk)
  rwa [Nat.add_comm k 1, ← Nat.add_assoc] at this

theorem InYears.mono {fewer : Nat} (h : c.InYears count) (hle : fewer ≤ count) : c.InYears fewer :=
  fun k hk => h k (Nat.lt_of_lt_of_le hk hle)

theorem Steady.tick (h : c.Steady (count + 1)) : c.tick.Steady count := by
  intro k hk
  have := h (k + 1) (Nat.succ_lt_succ hk)
  show c.reading (c.taken + 1 + k) ≤ c.reading (c.taken + 1 + (k + 1))
  rwa [Nat.add_assoc, Nat.add_assoc, Nat.add_comm 1 k, Nat.add_comm 1 (k + 1)]

/-- No reading is earlier than one before it. -/
theorem Steady.le (h : c.Steady count) {i j : Nat} (hij : i ≤ j) (hj : j < count) :
    c.reading (c.taken + i) ≤ c.reading (c.taken + j) := by
  induction j, hij using Nat.le_induction with
  | base => exact Int.le_refl _
  | succ j hij ih => exact Int.le_trans (ih (Nat.lt_of_succ_lt hj)) (h j hj)

end Clock

end Critique
