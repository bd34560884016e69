/-
# The key-value server

A server that keeps texts by key and one index of members with scores. It knows four commands, and
one of them may be made to fail, before it has done anything.

* `countUp` counts a key up and answers the new number;
* `commit` runs a batch that stores a text and scores a member of the index;
* `fetch` answers the text of a key;
* `highest` answers members of the index from the highest score down, members of one score in
  descending order.

Main statements: `text?_setText` and `text?_setText_of_ne` (what a key holds after one was set).
-/
import Critique.Store.Basic

namespace Critique

/-- The commands of the server. -/
inductive Command where
  | countUp
  | commit
  | fetch
  | highest
  deriving DecidableEq

/-- Texts by key, the members of the index with their scores, and the command that fails. -/
structure Server where
  texts : List (String × String)
  index : List (String × Int)
  failing : Option (Command × String)

namespace Server

/-- A server that holds nothing. -/
def empty : Server := ⟨[], [], none⟩

/-! ## 1. Data -/

/-- The text of a key. -/
def text? (s : Server) (key : String) : Option String :=
  Entries.find? key s.texts

/-- Stores a text under a key. -/
def setText (s : Server) (key text : String) : Server :=
  { s with texts := Entries.set key text s.texts }

/-- Gives a member of the index a score. -/
def setScore (s : Server) (member : String) (score : Int) : Server :=
  { s with index := Entries.set member score s.index }

@[simp] theorem text?_setText (s : Server) (key text : String) :
    (s.setText key text).text? key = some text := by
  simp [text?, setText]

theorem text?_setText_of_ne (s : Server) {key other : String} (h : other ≠ key) (text : String) :
    (s.setText key text).text? other = s.text? other := by
  simp [text?, setText, Entries.find?_set_of_ne h]

/-- Whether the first member comes before the second in ascending order: by score, then by name. -/
def before (a b : String × Int) : Bool :=
  a.2 < b.2 || (a.2 == b.2 && decide (a.1 ≤ b.1))

/-- The index in ascending order. -/
def ranked (s : Server) : List (String × Int) :=
  s.index.mergeSort before

/-! ## 2. Commands -/

/-- Refuses a command that is made to fail. -/
def permit (s : Server) (command : Command) : Except StoreError Unit :=
  match s.failing with
  | some (failing, message) => if failing = command then .error (.refused message) else .ok ()
  | none => .ok ()

/-- Counts a key up; a key without a text counts as zero. -/
def countUp (s : Server) (key : String) : Except StoreError (Int × Server) := do
  s.permit .countUp
  let n ← (Numeral.read ((s.text? key).getD "0")).mapError StoreError.numeral
  let written ← (Numeral.writtenWithin (n + 1)).mapError StoreError.numeral
  return (n + 1, s.setText key written)

/-- Stores a text and scores a member, both or neither. -/
def commit (s : Server) (key text member : String) (score : Int) : Except StoreError Server := do
  s.permit .commit
  return (s.setText key text).setScore member score

/-- The text of a key. -/
def fetch (s : Server) (key : String) : Except StoreError (Option String) := do
  s.permit .fetch
  return s.text? key

/-- The members of the index from the highest down, up to position `last`; a negative position
counts from the end. -/
def highest (s : Server) (last : Int) : Except StoreError (List String) := do
  s.permit .highest
  let members := s.ranked.reverse.map Prod.fst
  let position := if last < 0 then last + members.length else last
  return if position < 0 then [] else members.take (position.toNat + 1)

end Server

end Critique
