/-
# The store in memory

Records in the order in which they were made. The first has the number 1, and every number is one
more than the one before, so the number of a new record is known from the size.

Main statements: `size_create` (a new record is one more) and `records_create` (it goes to the end
and nothing else changes).
-/
import Critique.Store.Basic

namespace Critique

/-- Records in the order in which they were made. -/
structure Memory where
  records : List Record

namespace Memory

/-- No records. -/
def empty : Memory := ⟨[]⟩

/-- The number of records. -/
def size (m : Memory) : Nat :=
  m.records.length

/-- Makes a record of a report. -/
def create (m : Memory) (code language : String) (report : Report) (created : Time.Stamp) :
    Record × Memory :=
  let record := Record.ofReport (m.size + 1 : Nat) code language report created
  (record, ⟨m.records ++ [record]⟩)

/-- The record of a number. -/
def get? (m : Memory) (id : Int) : Option Record :=
  m.records.find? (·.id == id)

/-- The latest records first, cut by a limit. -/
def recent (m : Memory) (limit : Int) : List Record :=
  slice limit (m.records.mergeSort Record.later)

@[simp] theorem records_create (m : Memory) (code language : String) (report : Report)
    (created : Time.Stamp) :
    (m.create code language report created).2.records =
      m.records ++ [(m.create code language report created).1] := rfl

@[simp] theorem size_create (m : Memory) (code language : String) (report : Report)
    (created : Time.Stamp) : (m.create code language report created).2.size = m.size + 1 := by
  simp [size]

end Memory

end Critique
