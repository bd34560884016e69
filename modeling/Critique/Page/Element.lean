/-
# Elements of the page

What a drawing of the page puts on the screen, one element after another: texts in some style,
values, sources, and controls. Layout is an element too: after columns have been laid out, an
element may be put into one of them.

Main statement: `texts_append` (the texts of a style in two pieces of a drawing are those of the
drawing).
-/
import Critique.Json.Value

namespace Critique.Page

/-! ## 1. Elements -/

/-- What a text is there for. -/
inductive Style where
  | title
  | heading
  | caption
  | line
  | toast
  | info
  | success
  | warning
  | error
  | activity
  | panel
  deriving DecidableEq

/-- How a button looks. Only some buttons can be disabled; the others have no say in it. -/
structure Look where
  primary : Bool
  wide : Bool
  disabled : Option Bool
  deriving DecidableEq

/-- An element of the page. -/
inductive Element where
  /-- The name of the page in its window. -/
  | setup (name : String)
  | text (style : Style) (text : String)
  /-- Columns of the same width. -/
  | columns (count : Nat)
  /-- Two columns whose widths are as the two numbers. -/
  | sides (left right : Nat)
  | within (column : Nat) (element : Element)
  | metric (label : String) (value : Json)
  /-- A bar that is filled by so many hundredths. -/
  | progress (hundredths : Nat)
  | source (code language : Json)
  | download (label data name mediaType : String)
  /-- A choice of one, kept in the session under a name. -/
  | choice (label : String) (options : List String) (name : String)
  /-- A choice of some, all of which are chosen at first. -/
  | filter (label : String) (options : List Json)
  /-- An editor of a given height, kept in the session under a name. -/
  | editor (label name : String) (height : Nat)
  /-- A field for a whole number from 1 on. -/
  | numberField (label : String)
  | button (label : String) (look : Look)
  /-- The end of a drawing that is to be done again at once. -/
  | redraw

namespace Element

/-- The title of the page. -/
abbrev title : String → Element := text .title

/-- A heading. -/
abbrev heading : String → Element := text .heading

/-- A small line of text. -/
abbrev caption : String → Element := text .caption

/-- A line of formatted text. -/
abbrev line : String → Element := text .line

/-- A note in passing. -/
abbrev toast : String → Element := text .toast

/-- A hint. -/
abbrev info : String → Element := text .info

/-- Good news. -/
abbrev success : String → Element := text .success

/-- A warning. -/
abbrev warning : String → Element := text .warning

/-- An error. -/
abbrev error : String → Element := text .error

/-- A note that something is going on. -/
abbrev activity : String → Element := text .activity

/-- The head of a panel that opens and closes. -/
abbrev panel : String → Element := text .panel

end Element

/-! ## 2. Texts -/

/-- The text of an element, if it is one of a style. -/
def Element.textOf? (style : Style) : Element → Option String
  | text s t => if s = style then some t else none
  | _ => none

/-- The texts of a style in a drawing, in order. -/
def texts (style : Style) (drawn : List Element) : List String :=
  drawn.filterMap (Element.textOf? style)

@[simp] theorem texts_append (style : Style) (a b : List Element) :
    texts style (a ++ b) = texts style a ++ texts style b := by
  simp [texts]

@[simp] theorem texts_singleton (style : Style) (t : String) :
    texts style [.text style t] = [t] := by
  simp [texts, Element.textOf?]

end Critique.Page
