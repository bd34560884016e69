/-
# Drawing the page

A drawing is one run through the page. It puts elements on the screen, asks the service, and reads
and changes the session of the visitor; it may end early, because the page is to be drawn again or
because a value was not what the page expects. What has been done up to then stays done.

`Visit` is what comes from outside during one drawing, `Desk` is what a drawing works on.

Main statements: `draw_eq`, `ask_eq` and `remember_eq` (what each step does to the desk).
-/
import Critique.Client
import Critique.Display
import Critique.Page.Element
import Critique.Service
import Critique.Session
import Critique.Settings

namespace Critique.Page

/-! ## 1. What comes from outside -/

/-- What comes from outside during one drawing: the button that was pressed, the choices that were
made, the message with which every question is refused while the service is away, replies that are
given in place of the service, and the time. -/
structure Visit where
  pressed : Option String
  filter : Option (List Json)
  sharedId : Json
  outage : Option String
  scripted : Question → Option Reply
  now : Display.Seconds

/-! ## 2. What a drawing works on -/

/-- What a drawing works on: the session, the archive behind the service, and what has been drawn
and asked so far. -/
structure Desk where
  session : Session
  archive : Archive
  drawn : List Element
  asked : List Question

/-- Why a drawing ends early. -/
inductive Halt where
  | redraw
  | fault (error : Json.AccessError)
  deriving DecidableEq

/-- A run through a piece of the page. -/
abbrev Drawing (α : Type) := ExceptT Halt (StateM Desk) α

namespace Drawing

/-! ## 3. Steps -/

/-- Puts an element on the screen. -/
def draw (e : Element) : Drawing Unit :=
  modify fun desk => { desk with drawn := desk.drawn ++ [e] }

/-- Puts elements on the screen, one after another. -/
def drawAll (es : List Element) : Drawing Unit :=
  modify fun desk => { desk with drawn := desk.drawn ++ es }

/-- Ends the drawing if a value is not what it should be. -/
def need {α : Type} : Except Json.AccessError α → Drawing α
  | .ok a => pure a
  | .error error => throw (.fault error)

/-- The session as it is. -/
def session : Drawing Session := do
  return (← get).session

/-- Gives a name of the session a value. -/
def remember (name : String) (value : Json) : Drawing Unit :=
  modify fun desk => { desk with session := desk.session.set name value }

/-- Asks for another drawing and ends this one. -/
def redraw {α : Type} : Drawing α := do
  draw Element.redraw
  throw .redraw

/-- How the service replies to a question, and the archive after it. -/
def reply (visit : Visit) (archive : Archive) (q : Question) : Except String Reply × Archive :=
  match visit.outage with
  | some message => (.error message, archive)
  | none =>
    match visit.scripted q with
    | some reply => (.ok reply, archive)
    | none =>
      let (response, archive) := Service.respond archive q.request
      (.ok (.ofResponse response), archive)

/-- The answer of the service to a question. -/
def ask (visit : Visit) (q : Question) : Drawing (Except ClientError Json) := do
  let desk ← get
  let (reply, archive) := reply visit desk.archive q
  set { desk with archive := archive, asked := desk.asked ++ [q] }
  return q.read reply

/-- Draws a button and tells whether it is pressed; a disabled button is not. -/
def button (visit : Visit) (e : Element) (label : String) (disabled : Bool) : Drawing Bool := do
  draw e
  return !disabled && visit.pressed == some label

/-! ## 4. What the steps do -/

theorem draw_eq (e : Element) (desk : Desk) :
    (draw e).run desk = (.ok (), { desk with drawn := desk.drawn ++ [e] }) := rfl

theorem remember_eq (name : String) (value : Json) (desk : Desk) :
    (remember name value).run desk =
      (.ok (), { desk with session := desk.session.set name value }) := rfl

theorem ask_eq (visit : Visit) (q : Question) (desk : Desk) :
    (ask visit q).run desk =
      (.ok (q.read (reply visit desk.archive q).1),
        { desk with archive := (reply visit desk.archive q).2, asked := desk.asked ++ [q] }) := rfl

end Drawing

end Critique.Page
