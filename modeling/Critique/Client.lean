/-
# The client of the service

A client asks the service one of four questions and makes sense of the reply. A reply with a status
of the two hundreds is read as JSON. Any other one is a failure that carries the status and a
message: the `message` member of the reply if it counts as true, else the text of the reply, else
the status in words. Two questions have a reading of their own: a report that is not found is null,
and the question after the health of the service is answered with no as soon as anything is wrong.

Main statements: `read_analysis_missing` (a record that is not found is no failure) and
`isHealthy_refused` (a service that cannot be reached is not healthy).
-/
import Critique.Http.Message
import Critique.Json.Access
import Critique.Json.Reader

namespace Critique

/-! ## 1. Questions -/

/-- What a client can ask of the service; what it names is sent as it is, whatever its kind. -/
inductive Question where
  | health
  | analyze (code language : Json)
  | analysis (id : Json)
  | recent (limit : Json)

namespace Question

/-- The method of a question. -/
def method : Question → String
  | analyze _ _ => "POST"
  | _ => "GET"

/-- The path of a question. -/
def path : Question → String
  | health => "/health"
  | analyze _ _ => "/api/analyze"
  | analysis id => "/api/analysis/" ++ id.display
  | recent _ => "/api/analyses/recent"

/-- Where a question is sent, given the base address of the service as it stands. -/
def address (base : String) (q : Question) : String :=
  base ++ q.path

/-- What goes along with a question: the query, or the content. -/
inductive Payload where
  | query (pairs : List (String × Json))
  | content (value : Json)

/-- What goes along with a question. -/
def payload : Question → Payload
  | health => .query []
  | analyze code language => .content (.object [("code", code), ("language", language)])
  | analysis _ => .query []
  | recent limit => .query [("limit", limit)]

/-- How many seconds an answer may take. -/
def timeout : Question → Nat
  | health => 2
  | analyze _ _ => 30
  | analysis _ => 10
  | recent _ => 10

/-- The request that a question is sent as. -/
def request (q : Question) : Http.Request :=
  match q.payload with
  | .query pairs =>
    ⟨q.method, ⟨q.path, pairs.map fun (name, value) => (name, value.display)⟩, none⟩
  | .content value =>
    ⟨q.method, ⟨q.path, []⟩, some ⟨Json.render value, "application/json"⟩⟩

end Question

/-! ## 2. Replies -/

/-- A reply: a status and a text. -/
structure Reply where
  status : Int
  text : String
  deriving DecidableEq

/-- The reply that a response is received as. -/
def Reply.ofResponse (r : Http.Response) : Reply :=
  ⟨r.status, (r.content.map Json.render).getD ""⟩

/-- Why a question has no answer: the service could not be reached, it answered with a failure, its
answer is no JSON, or it is not of the kind that was expected. -/
inductive ClientError where
  | refused (message : String)
  | answered (message : String) (status : Int)
  | unreadable (error : Json.ReadError)
  | unusable (error : Json.AccessError)
  deriving DecidableEq

/-- The wording of a failure. -/
def ClientError.message : ClientError → String
  | .refused message => message
  | .answered message _ => message
  | .unreadable error => error.message
  | .unusable error => error.message

namespace Reply

/-- The JSON of a reply. -/
def json (r : Reply) (room : Nat := Json.nestingLimit) : Except ClientError Json :=
  (Json.read r.text room).mapError ClientError.unreadable

/-- Whether the status is one of the two hundreds. -/
def isSuccess (r : Reply) : Bool :=
  r.status.fdiv 100 == 2

/-- The text of a reply, or its status in words if it is empty. -/
def words (r : Reply) : String :=
  if r.text = "" then "HTTP " ++ Numeral.text r.status else r.text

/-- The message of a reply that is a failure. A text that is no JSON is its own message, but one
that lies too deep could not be looked at. -/
def message (r : Reply) (room : Nat := Json.nestingLimit) : Except ClientError String :=
  match Json.read r.text room with
  | .error (.deep container) => .error (.unreadable (.deep container))
  | .error _ => .ok r.words
  | .ok value =>
    match value.getD "message" .null with
    | .error error => .error (.unusable error)
    | .ok member => .ok (if member.truthy then member.display else r.text)

/-- The JSON of a reply that is no failure. -/
def check (r : Reply) (room : Nat := Json.nestingLimit) : Except ClientError Json :=
  if r.isSuccess then r.json room
  else
    match r.message room with
    | .ok message => .error (.answered message r.status)
    | .error error => .error error

end Reply

/-! ## 3. Answers -/

namespace Question

/-- Whether a reply says that the service is healthy. -/
def saysHealthy (r : Reply) (room : Nat := Json.nestingLimit) : Except ClientError Bool := do
  let status ← ((← r.json room).getD "status" .null).mapError ClientError.unusable
  return status.same (.text "ok")

/-- Whether the service is healthy, by its reply or by the message that it could not be reached
with. -/
def isHealthy (reply : Except String Reply) (room : Nat := Json.nestingLimit) : Bool :=
  match reply with
  | .ok reply => (saysHealthy reply room).toOption.getD false
  | .error _ => false

/-- The answer to a question, from the reply or from the message that the service could not be
reached with. The reply is read with so much room for what lies in one another. -/
def read (q : Question) (reply : Except String Reply) (room : Nat := Json.nestingLimit) :
    Except ClientError Json :=
  match q, reply with
  | health, reply => .ok (.bool (isHealthy reply room))
  | _, .error message => .error (.refused message)
  | analysis _, .ok reply => if reply.status = 404 then .ok .null else reply.check room
  | _, .ok reply => reply.check room

/-- A record that is not found is no failure. -/
theorem read_analysis_missing (id : Json) (text : String) :
    read (analysis id) (.ok ⟨404, text⟩) = .ok .null := by
  simp [read]

/-- A service that cannot be reached is not healthy. -/
theorem isHealthy_refused (message : String) : isHealthy (.error message) = false := rfl

end Question

end Critique
