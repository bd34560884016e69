/-
# Exporting a value

An export is the indented form of a value, if there is one. It is written from the outside inwards,
and every list and object that has something in it takes room while its items are written. An empty
one is written at once and takes none; a double takes as much as a list. Where the room is used up,
the export is refused, and so it is at an integer of more than `Numeral.digitLimit` digits; the
refusal tells which of the two is met first.

Main statements: `exported_eq` (what an export is, if there is one) and `writable_empty` (brackets
need no room).
-/
import Critique.Json.Access
import Critique.Json.Reader

namespace Critique.Json

/-- How many lists and objects with something in them may lie in one another in an export. The call
that exports is one more than the call that reads, so this is one less than is read. -/
def exportLimit : Nat := nestingLimit - 1

mutual

/-- Refuses a value that cannot be written where there is so much room. -/
def writable : Json → Nat → Except AccessError Unit
  | .int n, _ => do let _ ← (Numeral.writtenWithin n).mapError AccessError.numeral
  | .real _, 0 => .error .deep
  | .list [], _ => .ok ()
  | .list (_ :: _), 0 => .error .deep
  | .list (item :: rest), room + 1 => do
    writable item room
    writableItems rest room
  | .object [], _ => .ok ()
  | .object (_ :: _), 0 => .error .deep
  | .object ((_, value) :: rest), room + 1 => do
    writable value room
    writableMembers rest room
  | _, _ => .ok ()
termination_by structural value => value

/-- Refuses values of which one cannot be written. -/
def writableItems : List Json → Nat → Except AccessError Unit
  | [], _ => .ok ()
  | item :: rest, room => do
    writable item room
    writableItems rest room
termination_by structural items => items

/-- Refuses members of which the value of one cannot be written. -/
def writableMembers : List (Key × Json) → Nat → Except AccessError Unit
  | [], _ => .ok ()
  | (_, value) :: rest, room => do
    writable value room
    writableMembers rest room
termination_by structural members => members

end

/-- The export of a value. -/
def exported (value : Json) (room : Nat := exportLimit) : Except AccessError String := do
  writable value room
  return value.renderIndented

/-- An export is the indented form, if there is one. -/
theorem exported_eq {value : Json} {room : Nat} (h : writable value room = .ok ()) :
    exported value room = .ok value.renderIndented := by
  rw [exported, h]
  rfl

/-- Brackets with nothing between them need no room. -/
theorem writable_empty (room : Nat) :
    writable (.list []) room = .ok () ∧ writable (.object []) room = .ok () := by
  simp [writable]

end Critique.Json
