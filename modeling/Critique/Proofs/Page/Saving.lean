/-
# Saving and restoring

*Save* keeps the source and the language that stand in the editor, and *Restore* brings them back,
whatever has been done in between and however the service has replied to it.  Neither *Restore* nor
*Clear* takes effect where it is pressed: the drawing that sees the button leaves an action and
ends, and the drawing after it runs the action before anything is filled in.

A visit does to a session what the pressed button does to the notes that the session stands for
(`visit_presses`), so the two drawings are one step; the rest of the page leaves the session alone,
even where it ends with a fault.  A run of turns is a run of such steps (`Site.after_reads`), and of
the steps only *Save* changes what is saved.

* `drawPage_presses`: what one drawing does to the notes;
* `visit_presses`: what a visit does to them, and how often it asks the archive;
* `saved_restored`: what is saved is restored, and what is cleared is cleared.
-/
import Critique.Proofs.Page.Notes
import Critique.Proofs.Page.Shared

namespace Critique.Page

open Drawing

variable {v : Visit} {desk : Desk} {s : Session} {a : Archive} {n : Notes}

/-! ## 1. An analysis -/

/-- A piece changes the result or nothing, and asks for no other drawing. -/
structure ChangesResult (s : Session) (a : Archive) (outcome : Except Halt Unit) (after : Desk) :
    Prop where
  redraw : outcome ≠ .error .redraw
  session : after.session = s ∨ ∃ answer, after.session = s.set "result" answer
  archive : after.archive = a

theorem keepResult_session (language : Language) (answer : Json) (desk : Desk) :
    Ends (keepResult language answer) desk (ChangesResult desk.session desk.archive) := by
  unfold keepResult
  cases answer.assign "language" (.text language.name) with
  | error error => exact ⟨ok_ne_redraw (), .inl rfl, rfl⟩
  | ok result =>
    simp only [ends_bind, ends_remember, next_ok]
    cases analysisNote result with
    | ok note => exact ⟨ok_ne_redraw (), .inr ⟨result, rfl⟩, rfl⟩
    | error error => exact ⟨ok_ne_redraw (), .inr ⟨result, rfl⟩, rfl⟩

/-- **An analysis changes the result or nothing**, whatever the service replies, and asks at most
one question, which is the one after the analysis. -/
theorem analyze_session (v : Visit) (code : String) (language : Language) (desk : Desk) :
    Ends (analyze v code language) desk fun outcome after => ∃ archive,
      (archive = desk.archive ∨
        archive = (reply v desk.archive (.analyze (.text code) (.text language.name))).2) ∧
      ChangesResult desk.session archive outcome after := by
  unfold analyze
  by_cases hblank : (Text.strip code.toList).isEmpty = true
  · rw [if_pos hblank]
    exact ⟨desk.archive, .inl rfl, ok_ne_redraw (), .inl rfl, rfl⟩
  rw [if_neg hblank]
  simp only [ends_bind, ends_draw, next_ok, ends_ask]
  generalize Question.read _ _ = answer
  cases answer with
  | ok answer =>
    exact (keepResult_session language answer _).mono fun _ _ hchanges => ⟨_, .inr rfl, hchanges⟩
  | error error => exact ⟨_, .inr rfl, ok_ne_redraw (), .inl rfl, rfl⟩

/-! ## 2. One visit -/

/-- A drawing has done to the notes what the button does and asked the archive at most once, or it
has asked for another drawing and left an action that does so there. -/
def Presses (n : Notes) (pressed : Option String) (a : Archive) (outcome : Except Halt Unit)
    (desk : Desk) : Prop :=
  (outcome ≠ .error .redraw ∧ Answered a desk.archive ∧
    ∃ answer, desk.session.Settled (n.press answer pressed)) ∨
  (outcome = .error .redraw ∧ pressed ≠ none ∧ desk.archive = a ∧ ∃ answer action after,
    desk.session.runPending sample = (.ok action, after) ∧
      after.Settled (n.press answer pressed))

/-- What the editor has done to the session is not changed any more. -/
theorem drawRest_presses (answer : Json) (answered : Answered a desk.archive)
    (settled : desk.session.Settled (n.press answer v.pressed)) :
    Ends (drawRest v) desk (Presses n v.pressed a) := by
  refine (quiet_drawRest v desk).mono fun outcome after ⟨hgrows, hredraw⟩ => ?_
  exact .inl ⟨hredraw, hgrows.archive.symm ▸ answered, answer, hgrows.session.symm ▸ settled⟩

/-- **What one drawing does to the notes**: what the button does, now or in the next drawing. -/
theorem drawPage_presses {action : Json} {after : Session}
    (hrun : desk.session.runPending sample = (.ok action, after)) (settled : after.Settled n) :
    Ends (drawPage v) desk (Presses n v.pressed desk.archive) := by
  refine ends_drawPage hrun fun front _ asked => ?_
  refine ends_drawEditor_button settled.code settled.label (fun hrun saved => ?analysed)
    (fun hsave drawn => ?kept) (fun hrestore hsaved drawn => ?restored)
    (fun hclear drawn => ?cleared) (fun hrun hsave hclear hrestore saved => ?idle)
  case analysed =>
    refine (analyze_session v n.code n.language _).mono
      fun outcome after ⟨archive, hasked, hredraw, hsession, harchive⟩ => ?_
    subst harchive
    have hanswered : Answered desk.archive after.archive := by
      rcases hasked with hsame | hreply
      · exact .inl hsame
      · rw [hreply]
        exact answered_reply v desk.archive _
    obtain ⟨answer, hsettled⟩ : ∃ answer, after.session.Settled (n.press answer v.pressed) := by
      rw [hrun]
      rcases hsession with hsame | ⟨answer, hanswer⟩
      · exact ⟨n.result, hsame.symm ▸ settled⟩
      · exact ⟨answer, hanswer.symm ▸ settled.set_result answer⟩
    cases outcome with
    | ok => exact drawRest_presses answer hanswered hsettled
    | error halt => exact .inl ⟨hredraw, hanswered, answer, hsettled⟩
  case kept =>
    refine drawRest_presses n.result (.inl rfl) ?_
    rw [hsave]
    exact settled.set_saved
  case restored =>
    rw [settled.has_saved] at hsaved
    obtain ⟨⟨code, language⟩, hsome⟩ := Option.isSome_iff_exists.mp hsaved
    obtain ⟨after, hqueued, hafter⟩ := settled.runPending_restore hsome
    refine .inr ⟨rfl, by simp [hrestore], rfl, n.result, _, after, hqueued, ?_⟩
    rw [hrestore, Notes.press_restore hsome]
    exact hafter
  case cleared =>
    obtain ⟨after, hqueued, hafter⟩ := settled.runPending_clear
    refine .inr ⟨rfl, by simp [hclear], rfl, n.result, _, after, hqueued, ?_⟩
    rw [hclear]
    exact hafter
  case idle =>
    refine drawRest_presses n.result (.inl rfl) ?_
    rw [Notes.press_idle hsave hclear fun hpressed => ?_]
    · exact settled
    · have hnone : after.has "saved" ≠ true := fun hsaved => hrestore ⟨hsaved, hpressed⟩
      rw [settled.has_saved] at hnone
      simpa using hnone

/-- **A visit does to the notes what the pressed button does**, no action waits behind it, and the
archive has been asked at most once. -/
theorem visit_presses (v : Visit) (a : Archive) (reads : s.Reads n) :
    Answered a (visit v s a).2.archive ∧
      ∃ answer, (visit v s a).2.session.Settled (n.press answer v.pressed) := by
  obtain ⟨after, hrun, hafter⟩ := reads.runPending
  refine visit_of_drawings (P := fun desk => Answered a desk.archive ∧ ∃ answer,
    desk.session.Settled (n.press answer v.pressed)) ((drawPage_presses hrun hafter).mono ?_)
  rintro outcome between (hone | ⟨houtcome, -, harchive, answer, action, after, hqueued, hafter⟩)
  · exact .inl hone
  · -- no button is pressed in the second drawing, so it only settles what the action has done
    refine .inr ⟨houtcome, (drawPage_presses hqueued hafter).mono ?_⟩
    rintro _ last (⟨-, hanswered, _, hsettled⟩ | ⟨-, hpressed, -⟩)
    · rw [show between.archive = a from harchive] at hanswered
      exact ⟨hanswered, answer, hsettled⟩
    · exact absurd rfl hpressed

/-! ## 3. Many turns -/

theorem Turn.reads_edit (t : Turn) (reads : s.Reads n) :
    (t.edit s).Reads (n.edit t.typed t.picked) := by
  unfold Turn.edit
  cases t.typed with
  | none =>
    cases t.picked with
    | none => exact reads
    | some language => exact reads.set_label language
  | some code =>
    cases t.picked with
    | none => exact reads.set_code code
    | some language => exact (reads.set_code code).set_label language

namespace Site

variable {site : Site} {visitor : Nat} {t : Turn}

/-- **What a turn does to the notes of its visitor.** -/
theorem next_presses (reads : (site.sessions t.visitor).Reads n) :
    ∃ answer, ((site.next t).sessions t.visitor).Settled
      ((n.edit t.typed t.picked).press answer t.visit.pressed) := by
  have hnext : (site.next t).sessions t.visitor = (site.desk t).session := if_pos rfl
  rw [hnext]
  exact (visit_presses t.visit site.archive (t.reads_edit reads)).2

/-- Nobody's session is changed in the turn of another visitor. -/
theorem next_other (h : t.visitor ≠ visitor) :
    (site.next t).sessions visitor = site.sessions visitor :=
  if_neg (Ne.symm h)

/-- **What turns do to the notes of a visitor**: they stay notes, they are settled as soon as the
visitor has had a turn, and what is saved stays saved until the visitor saves again. -/
theorem after_reads (reads : (site.sessions visitor).Reads n) (turns : List Turn) :
    ∃ m, ((site.after turns).sessions visitor).Reads m ∧
      ((∃ t ∈ turns, t.visitor = visitor) ∨ (site.sessions visitor).Settled n →
        ((site.after turns).sessions visitor).Settled m) ∧
      ((∀ t ∈ turns, t.visitor = visitor → t.visit.pressed ≠ some "Save") → m.saved = n.saved) := by
  induction turns generalizing site n with
  | nil => exact ⟨n, reads, fun h => h.resolve_left (by simp), fun _ => rfl⟩
  | cons t turns ih =>
    by_cases hown : t.visitor = visitor
    · subst hown
      obtain ⟨answer, hsettled⟩ := next_presses reads
      obtain ⟨m, hreads, hdrawn, hsaved⟩ := ih hsettled.toReads
      refine ⟨m, hreads, fun _ => hdrawn (.inr hsettled), fun hunsaved => ?_⟩
      rw [List.forall_mem_cons] at hunsaved
      rw [hsaved hunsaved.2, Notes.press_saved (hunsaved.1 rfl)]
      rfl
    · rw [← next_other hown] at reads
      obtain ⟨m, hreads, hdrawn, hsaved⟩ := ih reads
      refine ⟨m, hreads, fun hbefore => hdrawn ?_, fun hunsaved => ?_⟩
      · rcases hbefore with ⟨u, hu, howner⟩ | hsettled
        · rcases List.mem_cons.mp hu with rfl | hu
          · exact absurd howner hown
          · exact .inl ⟨u, hu, howner⟩
        · rw [next_other hown]
          exact .inr hsettled
      · rw [List.forall_mem_cons] at hunsaved
        exact hsaved hunsaved.2

end Site

/-! ## 4. What the visitor finds -/

/-- The page has drawn the session to its end: no action waits, and there are a source, the label of
a language and a result. -/
structure Complete (s : Session) : Prop where
  idle : s.get? "pending_action" = none
  code : ∃ code, s.get? "code" = some (.text code)
  label : ∃ language : Language, s.get? "language_label" = some (.text language.label)
  result : (s.get? "result").isSome

/-- The editor is empty and there is no result; the language and what is saved are as before. -/
structure Cleared (before after : Session) : Prop where
  code : after.get? "code" = some (.text "")
  result : after.get? "result" = some .null
  label : after.get? "language_label" =
    some ((before.get? "language_label").getD (.text Language.python.label))
  saved : after.get? "saved" = before.get? "saved"

/-- A source and a language are back in the editor; the result and what is saved are as before. -/
structure Restored (code : String) (language : Language) (before after : Session) : Prop where
  code : after.get? "code" = some (.text code)
  label : after.get? "language_label" = some (.text language.label)
  result : after.get? "result" = some ((before.get? "result").getD .null)
  saved : after.get? "saved" = before.get? "saved"

/-- In its turn the visitor presses a button. -/
structure Turn.PressedBy (t : Turn) (visitor : Nat) (button : String) : Prop where
  owner : t.visitor = visitor
  pressed : t.visit.pressed = some button

theorem complete_of_settled (h : s.Settled n) : Complete s :=
  ⟨h.idle, ⟨n.code, h.code⟩, ⟨n.language, h.label⟩, by rw [h.shown]; rfl⟩

namespace Site

variable {site : Site} {visitor : Nat} {t : Turn}

/-- **Clearing**, in whatever state the session is. -/
theorem cleared_of_reads (reads : (site.sessions visitor).Reads n)
    (clears : t.PressedBy visitor "Clear") :
    Cleared (site.session t) ((site.next t).sessions visitor) := by
  obtain ⟨rfl, hpressed⟩ := clears
  have hbefore : (site.session t).Reads (n.edit t.typed t.picked) := t.reads_edit reads
  obtain ⟨answer, hafter⟩ := next_presses reads
  rw [hpressed] at hafter
  constructor
  · exact hafter.code
  · exact hafter.shown
  · rw [hbefore.editing.label]
    exact hafter.label
  · rw [hbefore.saved]
    exact hafter.saved

/-- **Restoring**, where something is saved. -/
theorem restored_of_reads (reads : (site.sessions visitor).Reads n) {code : String}
    {language : Language} (hsaved : n.saved = some (code, language))
    (restores : t.PressedBy visitor "Restore") :
    Restored code language (site.session t) ((site.next t).sessions visitor) := by
  obtain ⟨rfl, hpressed⟩ := restores
  have hbefore : (site.session t).Reads (n.edit t.typed t.picked) := t.reads_edit reads
  have hstill : (n.edit t.typed t.picked).saved = some (code, language) := hsaved
  obtain ⟨answer, hafter⟩ := next_presses reads
  rw [hpressed, Notes.press_restore hstill] at hafter
  constructor
  · exact hafter.code
  · exact hafter.label
  · rw [hbefore.result]
    exact hafter.shown
  · rw [hbefore.saved]
    exact hafter.saved

/-- What is saved is the source and the language that stand in the editor. -/
theorem saved_of_reads (reads : (site.sessions visitor).Reads n)
    (saves : t.PressedBy visitor "Save") {code : String} {language : Language}
    (editing : (site.session t).Editing code language) :
    ∃ m, ((site.next t).sessions visitor).Reads m ∧ m.saved = some (code, language) := by
  obtain ⟨rfl, hpressed⟩ := saves
  have hbefore : (site.session t).Reads (n.edit t.typed t.picked) := t.reads_edit reads
  obtain ⟨answer, hafter⟩ := next_presses reads
  rw [hpressed] at hafter
  refine ⟨_, hafter.toReads, ?_⟩
  obtain ⟨hcode, hlanguage⟩ := hbefore.of_editing editing
  rw [← hcode, ← hlanguage]
  rfl

end Site

/-- **What is saved is restored.**  A visitor comes to the page for the first time, and takes any
turns, with any turns of others in between and whatever the service replies.  After each turn of the
visitor the session is complete.  *Clear* empties the editor and forgets the result, and leaves the
language and what is saved.  If the visitor has saved a source and its language, and has not saved
again since, *Restore* brings both back, and leaves the result and what is saved. -/
theorem saved_restored {site : Site} {visitor : Nat} (new : site.sessions visitor = .empty) :
    (∀ turns : List Turn, (∃ t ∈ turns, t.visitor = visitor) →
      Complete ((site.after turns).sessions visitor)) ∧
    (∀ (before : List Turn) (t : Turn), t.PressedBy visitor "Clear" →
      Cleared ((site.after before).session t) (((site.after before).next t).sessions visitor)) ∧
    ∀ (before : List Turn) (t : Turn) (between : List Turn) (u : Turn) (code : String)
      (language : Language), t.PressedBy visitor "Save" →
      ((site.after before).session t).Editing code language →
      (∀ turn ∈ between, turn.visitor = visitor → turn.visit.pressed ≠ some "Save") →
      u.PressedBy visitor "Restore" →
      Restored code language ((((site.after before).next t).after between).session u)
        (((((site.after before).next t).after between).next u).sessions visitor) := by
  have hnew : (site.sessions visitor).Reads .new := new ▸ Session.reads_empty
  refine ⟨fun turns hown => ?_, fun before t clears => ?_,
    fun before t between u code language saves editing unsaved restores => ?_⟩
  · obtain ⟨m, -, hsettled, -⟩ := Site.after_reads hnew turns
    exact complete_of_settled (hsettled (.inl hown))
  · obtain ⟨m, hreads, -, -⟩ := Site.after_reads hnew before
    exact Site.cleared_of_reads hreads clears
  · obtain ⟨m, hreads, -, -⟩ := Site.after_reads hnew before
    obtain ⟨m, hreads, hsaved⟩ := Site.saved_of_reads hreads saves editing
    obtain ⟨m', hreads, -, hsame⟩ := Site.after_reads hreads between
    exact Site.restored_of_reads hreads ((hsame unsaved).trans hsaved) restores

/-- A line is saved, another one is analysed, the editor is cleared, and the first line is back. -/
theorem saved_restored_of_four :
    let save := turnBy (some "x = 1") (some .python) "Save" 1
    let between := [turnBy (some "var y;") (some .javascript) "Analyze Code" 1,
      turnBy none none "Clear" 1]
    let restore := turnBy none none "Restore" 1
    Complete ((newSite.after (save :: between)).sessions 0) ∧
      Cleared ((newSite.after [save]).session (turnBy none none "Clear" 1))
        (((newSite.after [save]).next (turnBy none none "Clear" 1)).sessions 0) ∧
      Restored "x = 1" .python (((newSite.next save).after between).session restore)
        ((((newSite.next save).after between).next restore).sessions 0) := by
  intro save between restore
  have hnew : newSite.sessions 0 = .empty := rfl
  obtain ⟨hcomplete, hcleared, hrestored⟩ := saved_restored hnew
  refine ⟨hcomplete _ ⟨save, List.mem_cons_self, rfl⟩, hcleared _ _ ⟨rfl, rfl⟩, ?_⟩
  have hediting : ((newSite.after []).session save).Editing "x = 1" .python := by
    rw [Site.after_nil]
    constructor
    · simp [Site.session, Turn.edit, save, turnBy, Session.get?_set_of_ne]
    · simp [Site.session, Turn.edit, save, turnBy]
  have hunsaved : ∀ turn ∈ between, turn.visitor = 0 → turn.visit.pressed ≠ some "Save" := by
    simp [between, turnBy]
  exact hrestored [] save between restore _ _ ⟨rfl, rfl⟩ hediting hunsaved ⟨rfl, rfl⟩

end Critique.Page
