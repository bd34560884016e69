/-
# Sessions

A session is what the page remembers of one visitor between two drawings: values by name. The page
knows five of them: the source in the editor (`code`), the label of its language
(`language_label`), the last result (`result`), what was saved (`saved`), and an action that waits
for the next drawing (`pending_action`).

An action waits because a drawing that has begun can no longer change what its editor shows.
`runPending` runs it, and then fills in what a new session lacks.

Main statements: `get?_set` and `get?_set_of_ne` (what a name holds after one was set), and
`get?_pending_fillIn` (filling in queues no action).
-/
import Critique.Json.Access
import Critique.Language

namespace Critique

/-- Values by name. -/
structure Session where
  members : List (Json.Key × Json)

namespace Session

open Json (AccessError)

/-! ## 1. Values -/

/-- A session that holds nothing. -/
def empty : Session := ⟨[]⟩

/-- The value of a name. -/
def get? (s : Session) (name : String) : Option Json :=
  Entries.find? (.text name) s.members

/-- Whether a name has a value. -/
def has (s : Session) (name : String) : Bool :=
  (s.get? name).isSome

/-- Gives a name a value. -/
def set (s : Session) (name : String) (value : Json) : Session :=
  ⟨Entries.set (.text name) value s.members⟩

/-- Forgets a name. -/
def forget (s : Session) (name : String) : Session :=
  ⟨Entries.erase (.text name) s.members⟩

/-- Gives a name a value if it has none. -/
def setIfMissing (s : Session) (name : String) (value : Json) : Session :=
  if s.has name then s else s.set name value

@[simp] theorem get?_set (s : Session) (name : String) (value : Json) :
    (s.set name value).get? name = some value := by
  simp [get?, set]

theorem get?_set_of_ne (s : Session) {name other : String} (h : other ≠ name) (value : Json) :
    (s.set name value).get? other = s.get? other :=
  Entries.find?_set_of_ne (by simpa using h) value s.members

@[simp] theorem get?_forget (s : Session) (name : String) : (s.forget name).get? name = none := by
  simp [get?, forget]

theorem get?_forget_of_ne (s : Session) {name other : String} (h : other ≠ name) :
    (s.forget name).get? other = s.get? other :=
  Entries.find?_erase_of_ne (by simpa using h) s.members

theorem get?_setIfMissing_of_ne (s : Session) {name other : String} (h : other ≠ name)
    (value : Json) : (s.setIfMissing name value).get? other = s.get? other := by
  unfold setIfMissing
  split
  · rfl
  · exact get?_set_of_ne s h value

/-! ## 2. Pending actions -/

/-- The label of the language that a value names. -/
def labelFor : Json → String
  | .text name => Language.labelOf name
  | _ => Language.python.label

/-- Empties the editor and forgets the result. -/
def clear (s : Session) : Session :=
  (s.set "code" (.text "")).set "result" .null

/-- Brings back the source and the language that were saved. If the language is missing, the source
is back all the same. -/
def restore (s : Session) (saved : Json) : Except AccessError Unit × Session :=
  match saved.entry "code" with
  | .error error => (.error error, s)
  | .ok code =>
    let s := s.set "code" code
    match saved.entry "language" with
    | .error error => (.error error, s)
    | .ok language => (.ok (), s.set "language_label" (.text (labelFor language)))

/-- Runs an action. Only two are known, and there must be something to restore. -/
def run (s : Session) : Json → Except AccessError Unit × Session
  | .text "clear" => (.ok (), s.clear)
  | .text "restore" =>
    match s.get? "saved" with
    | some saved => if saved.truthy then s.restore saved else (.ok (), s)
    | none => (.ok (), s)
  | _ => (.ok (), s)

/-- Gives a new session its first source, a language and no result. -/
def fillIn (s : Session) (code : String) : Session :=
  ((s.setIfMissing "code" (.text code)).setIfMissing "language_label"
    (.text Language.python.label)).setIfMissing "result" .null

/-- Runs the action that waits, if there is one, and fills in what is missing; answers the action.
An action that fails is forgotten like any other, and nothing is filled in. -/
def runPending (s : Session) (code : String) : Except AccessError Json × Session :=
  let action := (s.get? "pending_action").getD .null
  match (s.forget "pending_action").run action with
  | (.error error, s) => (.error error, s)
  | (.ok (), s) => (.ok action, s.fillIn code)

/-- Filling in queues no action. -/
theorem get?_pending_fillIn (s : Session) (code : String) :
    (s.fillIn code).get? "pending_action" = s.get? "pending_action" := by
  unfold fillIn
  rw [get?_setIfMissing_of_ne _ (by decide), get?_setIfMissing_of_ne _ (by decide),
    get?_setIfMissing_of_ne _ (by decide)]

end Session

end Critique
