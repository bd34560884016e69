/-
# Reasoning about drawings

A drawing works on a desk and may end early.  What is to be said of it is said of its outcome and of
the desk that it leaves (`Ends`), and there is one rule for each step that a drawing is made of and
one for two drawings in a row, so that a piece of the page is taken apart as it is written.

Two kinds of pieces need less.  A piece that only draws, and is known to come to its end, is
described by what it draws (`Draws`).  A piece of which it is enough to know what it leaves alone is
described by a relation between the desks before and behind it, whether or not it comes to its end
(`Respects`).  It is `Quiet` if session and archive stay as they are and what has been drawn stays
on the screen, and `Calm` if besides it draws no error; neither asks for another drawing.

* `ends_bind`: two drawings in a row;
* `Draws.bind` and `Draws.forM`: what is drawn in a row, and for one item after the other;
* `Respects.bind` and `Respects.forM`: what is left alone by drawings in a row.
-/
import Critique.Page
import Mathlib.Order.Defs.Unbundled

namespace Critique.Page.Drawing

open Json (AccessError)

variable {α β : Type}

/-! ## 1. How a drawing ends -/

/-- From a desk, a drawing ends as `Q` says of its outcome and of the desk that it leaves. -/
def Ends (m : Drawing α) (desk : Desk) (Q : Except Halt α → Desk → Prop) : Prop :=
  Q (m.run desk).1 (m.run desk).2

/-- What has to be said of a drawing for another one to follow it. -/
def next (f : α → Drawing β) (Q : Except Halt β → Desk → Prop) : Except Halt α → Desk → Prop
  | .ok a, desk => Ends (f a) desk Q
  | .error halt, desk => Q (.error halt) desk

variable {Q : Except Halt β → Desk → Prop} {desk : Desk}

@[simp] theorem next_ok (f : α → Drawing β) (a : α) : next f Q (.ok a) desk = Ends (f a) desk Q :=
  rfl

@[simp] theorem next_error (f : α → Drawing β) (halt : Halt) :
    next f Q (.error halt) desk = Q (.error halt) desk := rfl

theorem run_bind (m : Drawing α) (f : α → Drawing β) (desk : Desk) :
    (m >>= f).run desk = match m.run desk with
      | (.ok a, desk) => (f a).run desk
      | (.error halt, desk) => (.error halt, desk) := by
  unfold ExceptT.run
  simp only [bind, ExceptT.bind, ExceptT.mk, StateT.bind, ExceptT.bindCont]
  cases m desk with
  | mk outcome after => cases outcome <;> rfl

/-- **Two drawings in a row.** -/
@[simp] theorem ends_bind (m : Drawing α) (f : α → Drawing β) :
    Ends (m >>= f) desk Q ↔ Ends m desk (next f Q) := by
  rw [Ends, Ends, run_bind]
  cases h : m.run desk with
  | mk outcome desk' => cases outcome <;> rfl

@[simp] theorem ends_pure (b : β) : Ends (pure b) desk Q = Q (.ok b) desk := rfl

@[simp] theorem ends_need (x : Except AccessError β) : Ends (need x) desk Q =
    match x with
    | .ok b => Q (.ok b) desk
    | .error error => Q (.error (.fault error)) desk := by
  cases x <;> rfl

@[simp] theorem ends_draw {Q : Except Halt Unit → Desk → Prop} (e : Element) :
    Ends (draw e) desk Q = Q (.ok ()) { desk with drawn := desk.drawn ++ [e] } := rfl

@[simp] theorem ends_session {Q : Except Halt Session → Desk → Prop} :
    Ends session desk Q = Q (.ok desk.session) desk := rfl

@[simp] theorem ends_remember {Q : Except Halt Unit → Desk → Prop} (name : String) (value : Json) :
    Ends (remember name value) desk Q =
      Q (.ok ()) { desk with session := desk.session.set name value } := rfl

@[simp] theorem ends_redraw :
    Ends (redraw : Drawing β) desk Q =
      Q (.error .redraw) { desk with drawn := desk.drawn ++ [.redraw] } := rfl

@[simp] theorem ends_ask {Q : Except Halt (Except ClientError Json) → Desk → Prop} (visit : Visit)
    (q : Question) :
    Ends (ask visit q) desk Q =
      Q (.ok (q.read (reply visit desk.archive q).1))
        { desk with archive := (reply visit desk.archive q).2, asked := desk.asked ++ [q] } := rfl

@[simp] theorem ends_button {Q : Except Halt Bool → Desk → Prop} (visit : Visit) (e : Element)
    (label : String) (disabled : Bool) :
    Ends (button visit e label disabled) desk Q =
      Q (.ok (!disabled && visit.pressed == some label))
        { desk with drawn := desk.drawn ++ [e] } := rfl

/-- What is said of a drawing may be weakened. -/
theorem Ends.mono {m : Drawing β} {R : Except Halt β → Desk → Prop} (h : Ends m desk R)
    (weaker : ∀ outcome desk, R outcome desk → Q outcome desk) : Ends m desk Q :=
  weaker _ _ h

/-! ## 2. Pieces that only draw and come to their end -/

/-- A piece that draws some elements, answers a value, and does nothing else. -/
def Draws (m : Drawing α) (a : α) (es : List Element) : Prop :=
  ∀ desk, m.run desk = (.ok a, { desk with drawn := desk.drawn ++ es })

theorem draws_pure (a : α) : Draws (pure a) a [] := by
  intro desk
  rw [List.append_nil]
  rfl

theorem draws_draw (e : Element) : Draws (draw e) () [e] := fun _ => rfl

theorem draws_need {x : Except AccessError α} {a : α} (h : x = .ok a) : Draws (need x) a [] :=
  h ▸ draws_pure a

/-- What is drawn in a row. -/
theorem Draws.bind {m : Drawing α} {f : α → Drawing β} {a : α} {b : β} {es fs : List Element}
    (h : Draws m a es) (hf : Draws (f a) b fs) : Draws (m >>= f) b (es ++ fs) := by
  intro desk
  rw [run_bind, h]
  simp only [hf _, List.append_assoc]

/-- A value that is needed and there draws nothing. -/
theorem draws_need_bind {x : Except AccessError α} {a : α} {f : α → Drawing β} {b : β}
    {es : List Element} (h : x = .ok a) (hf : Draws (f a) b es) : Draws (need x >>= f) b es :=
  (draws_need h).bind hf

/-- An element that is drawn first stands in front. -/
theorem draws_draw_bind {e : Element} {f : Unit → Drawing β} {b : β} {es : List Element}
    (hf : Draws (f ()) b es) : Draws (draw e >>= f) b (e :: es) :=
  (draws_draw e).bind hf

/-- What is drawn for one item after the other. -/
theorem Draws.forM {γ : Type} {f : α → Drawing Unit} {item : γ → α} {shown : γ → List Element}
    (h : ∀ x, Draws (f (item x)) () (shown x)) (xs : List γ) :
    Draws ((xs.map item).forM f) () (xs.flatMap shown) := by
  induction xs with
  | nil => exact draws_pure ()
  | cons x xs ih => exact (h x).bind ih

theorem Draws.ends {m : Drawing β} {b : β} {es : List Element} (h : Draws m b es) :
    Ends m desk Q = Q (.ok b) { desk with drawn := desk.drawn ++ es } := by
  rw [Ends, h desk]

/-! ## 3. Pieces that are known by what they leave alone -/

/-- A piece that is done to its end has asked for no other drawing. -/
theorem ok_ne_redraw (a : α) : (Except.ok a : Except Halt α) ≠ .error .redraw := nofun

/-- A piece changes the desk as a relation allows, and asks for no other drawing. -/
def Respects (R : Desk → Desk → Prop) (m : Drawing α) : Prop :=
  ∀ desk, Ends m desk fun outcome after => R desk after ∧ outcome ≠ .error .redraw

section Preorder

variable {R : Desk → Desk → Prop} [IsPreorder Desk R]

theorem respects_pure (a : α) : Respects R (pure a) :=
  fun desk => ⟨refl_of R desk, ok_ne_redraw a⟩

theorem respects_need (x : Except AccessError α) : Respects R (need x) := by
  intro desk
  cases x with
  | ok a => exact ⟨refl_of R desk, ok_ne_redraw a⟩
  | error error => exact ⟨refl_of R desk, nofun⟩

theorem respects_session : Respects R session := fun desk => ⟨refl_of R desk, ok_ne_redraw _⟩

/-- **What two drawings in a row respect.** -/
theorem Respects.bind {m : Drawing α} {f : α → Drawing β} (h : Respects R m)
    (hf : ∀ a, Respects R (f a)) : Respects R (m >>= f) := by
  intro desk
  rw [ends_bind]
  refine (h desk).mono fun outcome between ⟨hfirst, hredraw⟩ => ?_
  cases outcome with
  | error halt => exact ⟨hfirst, fun he => hredraw (by simpa using he)⟩
  | ok a =>
    rw [next_ok]
    exact (hf a between).mono fun outcome after ⟨hsecond, hredraw'⟩ =>
      ⟨trans_of R hfirst hsecond, hredraw'⟩

theorem Respects.forM {f : α → Drawing Unit} (h : ∀ item, Respects R (f item)) (items : List α) :
    Respects R (items.forM f) := by
  induction items with
  | nil => exact respects_pure ()
  | cons item items ih => exact (h item).bind fun _ => ih

end Preorder

/-! ## 4. Quiet and calm pieces -/

/-- Session and archive are the same, and what has been drawn is still there. -/
structure Grows (desk after : Desk) : Prop where
  session : after.session = desk.session
  archive : after.archive = desk.archive
  drawn : desk.drawn <+: after.drawn

instance : IsPreorder Desk Grows where
  refl _ := ⟨rfl, rfl, List.prefix_refl _⟩
  trans _ _ _ h h' :=
    ⟨h'.session.trans h.session, h'.archive.trans h.archive, h.drawn.trans h'.drawn⟩

/-- Besides, no error has been drawn. -/
structure Unalarmed (desk after : Desk) : Prop extends Grows desk after where
  errors : texts .error after.drawn = texts .error desk.drawn

instance : IsPreorder Desk Unalarmed where
  refl desk := ⟨refl_of Grows desk, rfl⟩
  trans _ _ _ h h' := ⟨trans_of Grows h.toGrows h'.toGrows, h'.errors.trans h.errors⟩

/-- A piece that leaves session and archive alone, and asks for no other drawing. -/
abbrev Quiet (m : Drawing α) : Prop := Respects Grows m

/-- A quiet piece that draws no error. -/
abbrev Calm (m : Drawing α) : Prop := Respects Unalarmed m

theorem Calm.quiet {m : Drawing α} (h : Calm m) : Quiet m :=
  fun desk => (h desk).mono fun _ _ ⟨hcalm, hredraw⟩ => ⟨hcalm.toGrows, hredraw⟩

/-- What is drawn stands behind what was there. -/
theorem grows_append (desk : Desk) (es : List Element) :
    Grows desk { desk with drawn := desk.drawn ++ es } :=
  ⟨rfl, rfl, List.prefix_append _ _⟩

theorem unalarmed_append (desk : Desk) {es : List Element} (h : texts .error es = []) :
    Unalarmed desk { desk with drawn := desk.drawn ++ es } :=
  ⟨grows_append desk es, by rw [texts_append, h, List.append_nil]⟩

theorem quiet_draw (e : Element) : Quiet (draw e) :=
  fun desk => ⟨grows_append desk [e], ok_ne_redraw _⟩

theorem calm_draw {e : Element} (h : texts .error [e] = []) : Calm (draw e) :=
  fun desk => ⟨unalarmed_append desk h, ok_ne_redraw _⟩

theorem calm_drawAll {es : List Element} (h : texts .error es = []) : Calm (drawAll es) :=
  fun desk => ⟨unalarmed_append desk h, ok_ne_redraw _⟩

theorem calm_button (visit : Visit) {e : Element} (h : texts .error [e] = []) (label : String)
    (disabled : Bool) : Calm (button visit e label disabled) :=
  fun desk => ⟨unalarmed_append desk h, ok_ne_redraw _⟩

end Critique.Page.Drawing
