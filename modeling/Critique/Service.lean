/-
# The service

The service answers requests over an archive. It has four routes:

* `GET /health` tells that it is up and which backend its store has;
* `POST /api/analyze` makes a report of a submission and keeps it as a record;
* `GET /api/analysis/…` answers the record of a number, which is the integer that the last segment
  begins with;
* `GET /api/analyses/recent` lists the latest records, as many as the query asks for.

A known path with another method is refused, and a path that would be known without the slashes at
its end is redirected, whatever the method. The pages on which a framework describes a service of its
own accord (`/docs`, `/docs/oauth2-redirect`, `/redoc` and `/openapi.json`) are no part of this one;
here no route is for them.

Faults of a submission are answered with status 500 and the list of faults; a store that could not
answer is told by its own words or, where it has none or on the way out, by a sentence of the route.
How deep the content of a request may be nested depends on who runs the service (`room`).

Main statements: `respond_unknown` (what no route is for is not found) and `respond_archive` (only a
submission changes the archive).
-/
import Critique.Http.Message
import Critique.Json.Encoding
import Critique.Store

namespace Critique

open Http

/-! ## 1. Routes -/

/-- What a path leads to. -/
inductive Route where
  | health
  | submit
  | record (segment : String)
  | recent
  deriving DecidableEq

namespace Route

/-- The method of a route. -/
def method : Route → String
  | submit => "POST"
  | _ => "GET"

/-- Whether a path is a fixed one; a line feed at its end is overlooked. -/
def isFixed (fixed path : String) : Bool :=
  path == fixed || path == fixed ++ "\n"

/-- What the paths of records begin with. -/
def recordBase : String := "/api/analysis/"

/-- The segment of a path to a record: anything but a slash, and at least one character. -/
def segment? (path : String) : Option String :=
  let segment := path.toList.drop recordBase.length
  if Text.begins path.toList recordBase && !segment.isEmpty && !segment.contains '/' then
    some (String.ofList segment)
  else none

/-- The route of a path. -/
def ofPath? (path : String) : Option Route :=
  if isFixed "/health" path then some health
  else if isFixed "/api/analyze" path then some submit
  else if isFixed "/api/analyses/recent" path then some recent
  else (segment? path).map record

/-- A path without the slashes at its end. -/
def withoutSlashes (path : String) : String :=
  String.ofList (Text.stripEnd (· == '/') path.toList)

/-- Whether a path would be known without the slashes at its end. -/
def isSlashed (path : String) : Bool :=
  path.toList.getLast? == some '/' && (ofPath? (withoutSlashes path)).isSome

end Route

/-! ## 2. What comes in -/

namespace Service

/-- Why a content could not be read: it is no JSON, or reading broke off before that was known. -/
inductive ContentError where
  | malformed
  | unreadable
  deriving DecidableEq

/-- The value that characters spell. -/
def spelledValue (characters : List Char) (room : Nat := Json.nestingLimit) :
    Except ContentError Json :=
  match Json.read (String.ofList characters) room with
  | .ok value => .ok value
  | .error (.malformed _ _ _ _) => .error .malformed
  | .error _ => .error .unreadable

/-- The value that a content holds; nothing at all, or a content of another kind, is null. -/
def contentValue (content : Option Content) (room : Nat := Json.nestingLimit) :
    Except ContentError Json :=
  match content with
  | none => .ok .null
  | some ⟨text, mediaType⟩ =>
    if text = "" || !isJson mediaType then .ok .null
    else
      match Json.characters? text.toList with
      | some characters => spelledValue characters room
      | none => .error .unreadable

/-- How many records a listing is asked for: the integer that the query's limit begins with, and the
default where there is none or it is zero. -/
def limitOf (t : Target) : Except Numeral.Flaw Int := do
  match t.queryValue? "limit" with
  | none => return Archive.defaultLimit
  | some text =>
    match ← Numeral.leading text with
    | some n => return (if n = 0 then Archive.defaultLimit else n)
    | none => return Archive.defaultLimit

/-! ## 3. Answers -/

/-- A response with a message. -/
def failure (status : Nat) (text : String) : Response :=
  .saying status "message" text

/-- A refusal that does not come from a route. -/
def refusal (status : Nat) (text : String) : Response :=
  .saying status "detail" text

/-- The answer to a question after the service itself. -/
def health (a : Archive) : Response :=
  .ofJson 200 (.object [("status", .text "ok"), ("storage", .text a.store.backend)])

/-- The answer to a report that has been kept, or not. -/
def submitted (report : Report) : Except StoreError Record → Response
  | .ok record => .ofJson 200 (.object (("id", .int record.id) :: report.members))
  | .error error =>
    failure 500 (if error.message = "" then "Failed to analyze code" else error.message)

/-- Makes a report of a submission and keeps it. -/
def submit (a : Archive) (content : Option Content) (room : Nat := Json.nestingLimit) :
    Response × Archive :=
  match contentValue content room with
  | .error .malformed => (failure 500 "Invalid request body", a)
  | .error .unreadable => (refusal 400 "There was an error parsing the body", a)
  | .ok value =>
    match checkSubmission value with
    | .error faults => (failure 500 (faultsMessage faults), a)
    | .ok submission =>
      let report := Report.analyze submission.code submission.language.name
      let (outcome, a) := a.create submission.code submission.language.name report
      (submitted report outcome, a)

/-- The record that a segment asks for. -/
def recordOf (a : Archive) (segment : String) : Except StoreError (Option Record) := do
  match ← (Numeral.leading segment).mapError StoreError.numeral with
  | none => return none
  | some id => a.get id

/-- The answer to a question after a record. -/
def record (a : Archive) (segment : String) : Response :=
  match recordOf a segment with
  | .ok (some record) => .ofJson 200 record.toJson
  | .ok none => failure 404 "Analysis not found"
  | .error _ => failure 500 "Failed to retrieve analysis"

/-- The records that a query asks for. -/
def recentOf (a : Archive) (t : Target) : Except StoreError (List Record) := do
  a.recent (← (limitOf t).mapError StoreError.numeral)

/-- The answer to a question after the latest records. -/
def recent (a : Archive) (t : Target) : Response :=
  match recentOf a t with
  | .ok records => .ofJson 200 (.list (records.map Record.toJson))
  | .error _ => failure 500 "Failed to retrieve recent analyses"

/-- The answer of a route. -/
def answer (a : Archive) (request : Request) (route : Route) (room : Nat := Json.nestingLimit) :
    Response × Archive :=
  match route with
  | .health => (health a, a)
  | .submit => submit a request.content room
  | .record segment => (record a segment, a)
  | .recent => (recent a request.target, a)

/-- The answer to a request, before its method decides whether the content is sent. -/
def route (a : Archive) (request : Request) (room : Nat := Json.nestingLimit) :
    Response × Archive :=
  match Route.ofPath? request.target.path with
  | some route =>
    if request.method = route.method then answer a request route room
    else (refusal 405 "Method Not Allowed", a)
  | none =>
    if Route.isSlashed request.target.path then (⟨307, none⟩, a)
    else (refusal 404 "Not Found", a)

/-- **The answer to a request, and the archive after it**, where a content is read with so much
room for what lies in one another. -/
def respond (a : Archive) (request : Request) (room : Nat := Json.nestingLimit) :
    Response × Archive :=
  let (response, a) := route a request room
  (if request.method = "HEAD" then response.withoutContent else response, a)

/-- What no route is for is not found, and nothing changes. -/
theorem respond_unknown (a : Archive) {request : Request} (method : request.method ≠ "HEAD")
    (unknown : Route.ofPath? request.target.path = none)
    (slashes : Route.isSlashed request.target.path = false) :
    respond a request = (refusal 404 "Not Found", a) := by
  simp [respond, route, unknown, slashes, method]

/-- Only a submission changes the archive. -/
theorem respond_archive (a : Archive) (request : Request)
    (other : Route.ofPath? request.target.path ≠ some .submit) : (respond a request).2 = a := by
  have same : (respond a request).2 = (route a request).2 := rfl
  rw [same]
  unfold route
  split
  · rename_i known found
    split
    · cases known with
      | submit => exact absurd found other
      | health => rfl
      | record segment => rfl
      | recent => rfl
    · rfl
  · split <;> rfl

end Service

end Critique
