/-
# Visitors take turns

Many visitors come to one page.  Each has a session of its own, and all of them share the archive
behind the service.  In its turn a visitor types, picks a language, and visits the page.

A visit is one drawing, or two of which the first has asked for the second.  What a drawing does to
session and archive is decided in the editor, since the rest of the page is quiet
(`ends_drawPage`), so there are the few ways in which the editor ends to be looked at, and each
leaves the session tidy.  The archive is left as it was, or as an analysis leaves it; so whatever an
analysis leaves, a visit leaves (`visit_tidy`).  The second drawing is one in which no button is
pressed; it changes the archive no further, and a turn uses up one submission and not two.

Where the service is healthy an analysis leaves the archive ready for the turns to come, and every
record where it was (`Leaves`).

* `drawPage_cases` and `visit_tidy`: all that a drawing and a visit can do;
* `visit_leaves` and `Site.Sound.after`: what a visit leaves, and what turns leave.
-/
import Critique.Proofs.Page.Panels

namespace Critique.Page

open Drawing Service

/-! ## 1. Visitors -/

/-- A turn of a visitor: what was typed and picked, and the visit. -/
structure Turn where
  visitor : Nat
  typed : Option String
  picked : Option Language
  visit : Visit

/-- What was typed and picked stands in the session when the page is drawn. -/
def Turn.edit (t : Turn) (s : Session) : Session :=
  let s := t.typed.elim s fun code => s.set "code" (.text code)
  t.picked.elim s fun language => s.set "language_label" (.text language.label)

/-- The sessions of the visitors, and the archive. -/
structure Site where
  sessions : Nat → Session
  archive : Archive

namespace Site

/-- The session in which a turn is taken. -/
def session (site : Site) (t : Turn) : Session :=
  t.edit (site.sessions t.visitor)

/-- The desk that a turn leaves. -/
def desk (site : Site) (t : Turn) : Desk :=
  (visit t.visit (site.session t) site.archive).2

/-- The site after a turn. -/
def next (site : Site) (t : Turn) : Site where
  sessions visitor := if visitor = t.visitor then (site.desk t).session else site.sessions visitor
  archive := (site.desk t).archive

/-- The site after turns. -/
def after (site : Site) (turns : List Turn) : Site :=
  turns.foldl next site

theorem after_nil (site : Site) : site.after [] = site := rfl

end Site

/-! ## 2. One drawing -/

variable {v : Visit} {s : Session} {a : Archive} {desk : Desk} {count : Nat}
  {Q : Except Halt Unit → Desk → Prop}

/-- What is drawn behind the editor. -/
def drawRest (v : Visit) : Drawing Unit := do
  drawLast v
  draw (.line "---")
  drawOpening v
  drawRecent v

theorem drawPage_eq (v : Visit) : drawPage v = (do
    drawHead v
    runPending
    draw (.sides 2 1)
    drawEditor v
    drawRest v) := rfl

/-- Whatever the service replies, session and archive stay as the editor has left them. -/
theorem quiet_drawRest (v : Visit) : Quiet (drawRest v) :=
  (calm_drawLast v).quiet.bind fun _ => (quiet_draw _).bind fun _ =>
    (quiet_drawOpening v).bind fun _ => (calm_drawRecent v).quiet

/-- Where no record is opened, no error is drawn behind the editor. -/
theorem calm_drawRest (h : v.pressed ≠ some "Load") : Calm (drawRest v) :=
  (calm_drawLast v).bind fun _ => (calm_draw rfl).bind fun _ =>
    (calm_drawOpening h).bind fun _ => calm_drawRecent v

/-- **The editor decides what a drawing does.**  Before it, the action that waits is run, and
neither a heading nor a panel nor an error is drawn. -/
theorem ends_drawPage {action : Json} {after : Session}
    (hrun : desk.session.runPending sample = (.ok action, after))
    (hQ : ∀ front, (∀ style title, style ∈ [.heading, .panel, .error] →
      .text style title ∉ front) → ∀ asked,
      Ends (drawEditor v)
        { desk with session := after, drawn := desk.drawn ++ front, asked := asked }
        (next (fun _ => drawRest v) Q)) :
    Ends (drawPage v) desk Q := by
  rw [drawPage_eq, ends_bind]
  refine ends_drawHead fun state asked => ?_
  rw [next_ok, ends_bind]
  refine ends_runPending hrun fun es hes => ?_
  simp only [next_ok, ends_bind, ends_draw, List.append_assoc]
  refine hQ _ (fun style title hstyle => ?_) asked
  have hnote : .text style title ∉ es := by
    intro hmem
    obtain ⟨rfl, -⟩ := Element.text.inj (hes _ hmem)
    simp at hstyle
  simp only [List.mem_cons, List.not_mem_nil, or_false] at hstyle
  rcases hstyle with rfl | rfl | rfl <;> simp [headElements, hnote]

/-- **All that a drawing can do**: it asks for another one and leaves the archive as it is, or it
leaves a tidy session and an archive as an analysis leaves one. -/
theorem drawPage_cases {P : Archive → Prop} (tidy : (desk.session.forget "pending_action").Tidy)
    (holds : P desk.archive)
    (analysed : v.pressed = some "Analyze Code" → ∀ (code : String) (language : Language) begun,
      Editable code → begun.session.Tidy → begun.archive = desk.archive →
      Ends (analyze v code language) begun fun outcome after =>
        outcome ≠ .error .redraw ∧ after.session.Tidy ∧ P after.archive) :
    Ends (drawPage v) desk fun outcome after =>
      (outcome = .error .redraw ∧ v.pressed ≠ none ∧
        (after.session.forget "pending_action").Tidy ∧ after.archive = desk.archive) ∨
      (outcome ≠ .error .redraw ∧ after.session.Tidy ∧ P after.archive) := by
  obtain ⟨action, s, hrun, hs⟩ := tidy.runPending
  obtain ⟨code, language, editing, short⟩ := hs.editing
  obtain ⟨hcode, hlabel⟩ := editing.fillIn
  -- whatever the editor leaves, the rest of the page leaves
  have hrest : ∀ {between : Desk}, between.session.Tidy → P between.archive →
      Ends (drawRest v) between fun outcome after =>
        (outcome = .error .redraw ∧ v.pressed ≠ none ∧
          (after.session.forget "pending_action").Tidy ∧ after.archive = desk.archive) ∨
        (outcome ≠ .error .redraw ∧ after.session.Tidy ∧ P after.archive) := by
    intro between htidy hholds
    refine (quiet_drawRest v _).mono fun outcome after ⟨hgrows, hredraw⟩ => .inr ⟨hredraw, ?_, ?_⟩
    · rw [hgrows.session]
      exact htidy
    · rw [hgrows.archive]
      exact hholds
  refine ends_drawPage hrun fun front _ asked => ?_
  refine ends_drawEditor hcode hlabel (fun hpressed saved => ?_) (fun _ drawn => ?_)
    (fun hpressed action drawn => ?_) (fun _ saved => ?_)
  case _ =>
    refine (analysed hpressed code language ⟨_, _, _, _⟩ short hs.fillIn rfl).mono ?_
    rintro outcome between ⟨hredraw, htidy, hholds⟩
    cases outcome with
    | ok => exact hrest htidy hholds
    | error halt => exact .inr ⟨hredraw, htidy, hholds⟩
  case _ => exact hrest (hs.fillIn.set (fits_saved short language)) holds
  case _ =>
    refine .inl ⟨rfl, fun hnone => ?_, hs.fillIn.forget_set _ _, rfl⟩
    rw [hnone] at hpressed
    simp at hpressed
  case _ => exact hrest hs.fillIn holds

/-! ## 3. One visit -/

/-- **A visit is one drawing or two**: what is known of the first, or of the second where the first
asks for it, is known of the visit. -/
theorem visit_of_drawings {P : Desk → Prop}
    (h : Ends (drawPage v) ⟨s, a, [], []⟩ fun outcome desk =>
      (outcome ≠ .error .redraw ∧ P desk) ∨
        (outcome = .error .redraw ∧
          Ends (drawPage { v with pressed := none }) desk fun _ after => P after)) :
    P (visit v s a).2 := by
  unfold Ends at h
  cases hrun : (drawPage v).run ⟨s, a, [], []⟩ with
  | mk outcome desk =>
    rw [hrun] at h
    rcases h with ⟨houtcome, hdesk⟩ | ⟨houtcome, hsecond⟩
    · unfold visit
      rw [hrun]
      cases outcome with
      | ok => exact hdesk
      | error halt =>
        cases halt with
        | redraw => exact absurd rfl houtcome
        | fault error => exact hdesk
    · obtain rfl : outcome = .error .redraw := houtcome
      rw [visit_of_redraw hrun]
      exact hsecond

/-- What is known of a drawing that asks for no other one is known of the visit. -/
theorem visit_ends {P : Desk → Prop} (h : Ends (drawPage v) ⟨s, a, [], []⟩ fun outcome desk =>
    outcome ≠ .error .redraw ∧ P desk) : P (visit v s a).2 :=
  visit_of_drawings (h.mono fun _ _ hone => .inl hone)

/-- **A visit leaves a tidy session**, and an archive as an analysis leaves one. -/
theorem visit_tidy {P : Archive → Prop} (tidy : s.Tidy) (holds : P a)
    (analysed : v.pressed = some "Analyze Code" → ∀ (code : String) (language : Language) begun,
      Editable code → begun.session.Tidy → begun.archive = a →
      Ends (analyze v code language) begun fun outcome after =>
        outcome ≠ .error .redraw ∧ after.session.Tidy ∧ P after.archive) :
    (visit v s a).2.session.Tidy ∧ P (visit v s a).2.archive := by
  refine visit_of_drawings (P := fun desk => desk.session.Tidy ∧ P desk.archive)
    ((drawPage_cases (tidy.forget "pending_action") holds analysed).mono ?_)
  rintro outcome between (⟨houtcome, -, htidy, harchive⟩ | hleaves)
  · -- no button is pressed in the second drawing, so it has nothing analysed and asks for no third
    have hholds : P between.archive := by
      rwa [show between.archive = a from harchive]
    refine .inr ⟨houtcome, (drawPage_cases htidy hholds fun hpressed => ?_).mono ?_⟩
    · exact absurd hpressed (by simp)
    · rintro _ after (⟨-, hpressed, -⟩ | ⟨-, hleaves⟩)
      · exact absurd rfl hpressed
      · exact hleaves
  · exact .inl hleaves

/-- What a visit leaves: a tidy session, an archive that is ready for the turns to come, and every
record where it was. -/
structure Leaves (a : Archive) (count : Nat) (desk : Desk) : Prop where
  tidy : desk.session.Tidy
  ready : Ready desk.archive count
  keeps : ∀ q, a.store.Keeps q → desk.archive.store.Keeps q

/-- **What a visit leaves** where the service is healthy. -/
theorem visit_leaves (h : v.Healthy) (tidy : s.Tidy) (ready : Ready a (count + 1)) :
    Leaves a count (visit v s a).2 := by
  have hready : Ready a count := ready.mono (Nat.le_succ count)
  obtain ⟨htidy, hafter, hkeeps⟩ : (visit v s a).2.session.Tidy ∧
      Ready (visit v s a).2.archive count ∧
      ∀ q, a.store.Keeps q → (visit v s a).2.archive.store.Keeps q := by
    refine visit_tidy (P := fun a' => Ready a' count ∧ ∀ q, a.store.Keeps q → a'.store.Keeps q)
      tidy ⟨hready, fun _ hq => hq⟩ ?_
    rintro - code language begun short hbegun rfl
    refine ends_analyze h ready short (fun _ => ?_) (fun _ r archive hmade note => ?_)
    · exact ⟨ok_ne_redraw (), hbegun, hready, fun _ hq => hq⟩
    · have hshows := shows_answer (Report.readable_members short language.name
        (hmade.short _ ready.room) 0) code language.name begun.archive.clock.now
      exact ⟨ok_ne_redraw (), hbegun.set (fits_result hshows), ready.made hmade, hmade.kept⟩
  exact ⟨htidy, hafter, hkeeps⟩

/-! ## 4. Many turns -/

/-- What is typed and picked leaves a session tidy. -/
theorem Turn.tidy_edit (t : Turn) (short : ∀ code, t.typed = some code → Editable code)
    (tidy : s.Tidy) : (t.edit s).Tidy := by
  have htyped : (t.typed.elim s fun code => s.set "code" (.text code)).Tidy := by
    cases hcode : t.typed with
    | none => exact tidy
    | some code => exact tidy.set (fits_code (short code hcode))
  unfold Turn.edit
  cases t.picked with
  | none => exact htyped
  | some language => exact htyped.set (fits_label language)

/-- A turn against a service that is there, with a source whose lines have short numbers. -/
structure Turn.Fair (t : Turn) : Prop where
  healthy : t.visit.Healthy
  short : ∀ code, t.typed = some code → Editable code

theorem Turn.Fair.edit {t : Turn} (h : t.Fair) (tidy : s.Tidy) : (t.edit s).Tidy :=
  t.tidy_edit h.short tidy

namespace Site

variable {site : Site} {turns : List Turn} {t : Turn}

/-- Nobody has been here yet. -/
def IsNew (site : Site) : Prop :=
  (∀ visitor, site.sessions visitor = .empty) ∧ site.archive.store.IsFresh

/-- Where all sessions are tidy, a turn that leaves its own tidy leaves all of them so. -/
theorem next_tidy (h : ∀ visitor, (site.sessions visitor).Tidy)
    (own : (site.desk t).session.Tidy) (visitor : Nat) :
    ((site.next t).sessions visitor).Tidy := by
  show Session.Tidy (if visitor = t.visitor then _ else _)
  split
  · exact own
  · exact h visitor

/-- All sessions are tidy, and the archive can take so many more turns. -/
structure Sound (site : Site) (count : Nat) : Prop where
  tidy : ∀ visitor, (site.sessions visitor).Tidy
  ready : Ready site.archive count

theorem IsNew.sound (h : site.IsNew) (few : count < 2 ^ 64)
    (years : site.archive.clock.InYears count) : site.Sound count where
  tidy visitor := by
    rw [h.1 visitor]
    exact Session.tidy_empty
  ready := ⟨h.2.working, h.2.hasRoom few, years⟩

theorem Sound.leaves (h : site.Sound (count + 1)) (fair : t.Fair) :
    Leaves site.archive count (site.desk t) :=
  visit_leaves fair.healthy (fair.edit (h.tidy t.visitor)) h.ready

theorem Sound.next (h : site.Sound (count + 1)) (fair : t.Fair) : (site.next t).Sound count where
  tidy := next_tidy h.tidy (h.leaves fair).tidy
  ready := (h.leaves fair).ready

/-- **Turns leave a site sound, and every record where it was.** -/
theorem Sound.after (h : site.Sound (turns.length + count)) (fair : ∀ t ∈ turns, t.Fair) :
    (site.after turns).Sound count ∧
      ∀ q, site.archive.store.Keeps q → (site.after turns).archive.store.Keeps q := by
  induction turns generalizing site with
  | nil =>
    rw [List.length_nil, Nat.zero_add] at h
    exact ⟨h, fun _ hq => hq⟩
  | cons t turns ih =>
    rw [List.length_cons, Nat.add_right_comm] at h
    have ht : t.Fair := fair t List.mem_cons_self
    obtain ⟨hsound, hkeeps⟩ := ih (h.next ht) fun u hu => fair u (List.mem_cons_of_mem t hu)
    exact ⟨hsound, fun q hq => hkeeps q ((h.leaves ht).keeps q hq)⟩

end Site

end Critique.Page
