/-
# Requests and responses

A request has a method, a target and perhaps a content with its media type. The content is JSON if
the media type says so: `application/json`, or `application/` and a subtype that ends in `+json`.
Letter case and parameters do not matter.

Main statements: `isJson_json` (the media type of JSON is one) and `withoutContent_content` (an
answer to a request for the head alone is empty).
-/
import Critique.Http.Target
import Critique.Json.Value
import Critique.Text.Case
import Critique.Text.Space

namespace Critique.Http

/-! ## 1. Requests -/

/-- What a request carries, with its media type. -/
structure Content where
  text : String
  mediaType : String
  deriving DecidableEq

/-- Whether a media type is one of JSON. -/
def isJson (mediaType : String) : Bool :=
  let essence := Text.lower (Text.strip (splitFirst ';' mediaType.toList).1)
  match Text.parts '/' essence with
  | [main, subtype] =>
    main == "application".toList
      && (subtype == "json".toList || "+json".toList.isSuffixOf subtype)
  | _ => false

theorem isJson_json : isJson "application/json" = true := by
  decide +kernel

/-- A request. -/
structure Request where
  method : String
  target : Target
  content : Option Content
  deriving DecidableEq

/-- The request that is sent for a method in any letter case and the text of a target. -/
def Request.of (method target : String) (content : Option Content) : Request :=
  ⟨String.ofList (Text.upper method.toList), .ofText target, content⟩

/-! ## 2. Responses -/

/-- A status and perhaps a value. -/
structure Response where
  status : Nat
  content : Option Json

namespace Response

/-- The response with a status and a value. -/
def ofJson (status : Nat) (value : Json) : Response :=
  ⟨status, some value⟩

/-- A response that says in one member what is the matter. -/
def saying (status : Nat) (name text : String) : Response :=
  ofJson status (.object [(name, .text text)])

/-- The response without its content. -/
def withoutContent (r : Response) : Response :=
  { r with content := none }

@[simp] theorem withoutContent_content (r : Response) : r.withoutContent.content = none := rfl

end Response

end Critique.Http
