/-
# The editor between two drawings

What a session holds between two drawings is what the page itself has put there: the source and the
language of the editor, a result that can be shown, a source that was saved.  `Session.Tidy` says so
name by name, in one table (`Fits`), so that a change of the session is looked at for one name only.
An action may wait in a session while the page is drawn again, but not between two visits; the table
lets nothing stand under its name.

In such a session the editor can always be drawn (`ends_drawEditor`).  It asks for another drawing
or it goes on; what it goes on with is the session as it was, the session with the source saved, or
the session with the answer to an analysis.

* `Session.Tidy.runPending`: an action leaves the session tidy, and itself behind;
* `ends_drawEditor`: what the editor does, button by button;
* `ends_analyze`: what an analysis does.
-/
import Critique.Proofs.Page.Answers
import Critique.Proofs.Page.Result

namespace Critique

open Page Page.Drawing

/-! ## 1. What a session holds -/

namespace Page

/-- A source whose lines have short numbers. -/
def Editable (code : String) : Prop :=
  Numeral.Short (Text.splitLines code.toList).length

theorem editable_sample : Editable sample := by
  have hlines : (Text.splitLines sample.toList).length = 10 := by
    rw [sample, String.toList_intercalate, Text.length_splitLines]
    decide +kernel
  unfold Editable
  rw [hlines]
  exact Numeral.short_of_lt (by decide)

theorem editable_empty : Editable "" :=
  Numeral.short_of_lt (by decide)

/-- What the page keeps of a source that is saved. -/
def savedValue (code : String) (language : Language) : Json :=
  .object [("code", .text code), ("language", .text language.name)]

/-- What a name of a session may hold between two visits. -/
def Fits : String → Json → Prop
  | "code", value => ∃ code, value = .text code ∧ Editable code
  | "language_label", value => ∃ language : Language, value = .text language.label
  | "result", value => value = .null ∨ ∃ r tally, Shows value r tally
  | "saved", value => ∃ code language, value = savedValue code language ∧ Editable code
  | "pending_action", _ => False
  | _, _ => True

theorem fits_code {code : String} (h : Editable code) : Fits "code" (.text code) := ⟨code, rfl, h⟩

theorem fits_label (language : Language) : Fits "language_label" (.text language.label) :=
  ⟨language, rfl⟩

theorem fits_null : Fits "result" .null := .inl rfl

theorem fits_result {value : Json} {r : Record} {tally : Tally} (h : Shows value r tally) :
    Fits "result" value := .inr ⟨r, tally, h⟩

theorem fits_saved {code : String} (h : Editable code) (language : Language) :
    Fits "saved" (savedValue code language) := ⟨code, language, rfl, h⟩

end Page

namespace Session

/-- A session holds under every name what the page may have put there. -/
def Tidy (s : Session) : Prop :=
  ∀ name value, s.get? name = some value → Fits name value

/-- The source and the language that the editor of a session is going to show. -/
structure Editing (s : Session) (code : String) (language : Language) : Prop where
  code : (s.get? "code").getD (.text sample) = .text code
  label : (s.get? "language_label").getD (.text Language.python.label) = .text language.label

variable {s : Session}

theorem get?_setIfMissing (s : Session) (name : String) (value : Json) :
    (s.setIfMissing name value).get? name = some ((s.get? name).getD value) := by
  unfold setIfMissing has
  cases h : s.get? name with
  | none => exact get?_set s name value
  | some old => exact h

theorem tidy_empty : Tidy empty := fun _ _ h => nomatch h

theorem Tidy.set (h : Tidy s) {name : String} {value : Json} (fits : Fits name value) :
    Tidy (s.set name value) := by
  intro other found hfound
  by_cases heq : other = name
  · subst heq
    rw [get?_set] at hfound
    exact Option.some.inj hfound ▸ fits
  · rw [get?_set_of_ne s heq] at hfound
    exact h other found hfound

theorem Tidy.setIfMissing (h : Tidy s) {name : String} {value : Json} (fits : Fits name value) :
    Tidy (s.setIfMissing name value) := by
  unfold Session.setIfMissing
  split
  · exact h
  · exact h.set fits

theorem Tidy.forget (h : Tidy s) (name : String) : Tidy (s.forget name) := by
  intro other found hfound
  by_cases heq : other = name
  · rw [heq, get?_forget] at hfound
    exact nomatch hfound
  · rw [get?_forget_of_ne s heq] at hfound
    exact h other found hfound

/-- A name that is set and forgotten is forgotten. -/
theorem Tidy.forget_set (h : Tidy s) (name : String) (value : Json) :
    Tidy ((s.set name value).forget name) := by
  intro other found hfound
  by_cases heq : other = name
  · rw [heq, get?_forget] at hfound
    exact nomatch hfound
  · rw [get?_forget_of_ne _ heq, get?_set_of_ne s heq] at hfound
    exact h other found hfound

theorem Tidy.pending (h : Tidy s) : s.get? "pending_action" = none := by
  cases hp : s.get? "pending_action" with
  | none => rfl
  | some action => exact (h _ _ hp).elim

/-- The editor of a tidy session shows some source and some language. -/
theorem Tidy.editing (h : Tidy s) : ∃ code language, s.Editing code language ∧ Editable code := by
  obtain ⟨code, hcode, hshort⟩ :
      ∃ code, (s.get? "code").getD (.text sample) = .text code ∧ Editable code := by
    cases hfound : s.get? "code" with
    | none => exact ⟨sample, rfl, editable_sample⟩
    | some value => exact h _ _ hfound
  obtain ⟨language, hlabel⟩ : ∃ language : Language,
      (s.get? "language_label").getD (.text Language.python.label) = .text language.label := by
    cases hfound : s.get? "language_label" with
    | none => exact ⟨.python, rfl⟩
    | some value => exact h _ _ hfound
  exact ⟨code, language, ⟨hcode, hlabel⟩, hshort⟩

theorem Tidy.editable (h : Tidy s) {code : String} {language : Language}
    (editing : s.Editing code language) : Editable code := by
  obtain ⟨shown, _, hshown, hshort⟩ := h.editing
  obtain rfl : code = shown := Json.text.inj (editing.code.symm.trans hshown.code)
  exact hshort

/-! ## 2. Actions -/

/-- **An action can be run, and leaves a session tidy.** -/
theorem Tidy.run (h : Tidy s) (action : Json) :
    ∃ after, s.run action = (.ok (), after) ∧ Tidy after := by
  unfold Session.run
  split
  · exact ⟨_, rfl, (h.set (fits_code editable_empty)).set fits_null⟩
  · cases hsaved : s.get? "saved" with
    | none => exact ⟨s, rfl, h⟩
    | some value =>
      obtain ⟨code, language, rfl, hshort⟩ := h _ _ hsaved
      have hlabel : labelFor (.text language.name) = language.label :=
        Language.labelOf_name language
      exact ⟨_, rfl, (h.set (fits_code hshort)).set (hlabel ▸ fits_label language)⟩
  · exact ⟨s, rfl, h⟩

theorem Tidy.fillIn (h : Tidy s) : Tidy (s.fillIn sample) :=
  ((h.setIfMissing (fits_code editable_sample)).setIfMissing (fits_label .python)).setIfMissing
    fits_null

/-- What is missing is filled in with what the editor is going to show. -/
theorem Editing.fillIn {code : String} {language : Language} (h : s.Editing code language) :
    (s.fillIn sample).get? "code" = some (.text code) ∧
      (s.fillIn sample).get? "language_label" = some (.text language.label) := by
  unfold Session.fillIn
  constructor
  · rw [get?_setIfMissing_of_ne _ (by decide), get?_setIfMissing_of_ne _ (by decide),
      get?_setIfMissing, h.code]
  · rw [get?_setIfMissing_of_ne _ (by decide), get?_setIfMissing,
      get?_setIfMissing_of_ne _ (by decide), h.label]

/-- **An action leaves the session tidy, and itself behind.** -/
theorem Tidy.runPending (h : Tidy (s.forget "pending_action")) :
    ∃ action after, s.runPending sample = (.ok action, after.fillIn sample) ∧ Tidy after := by
  obtain ⟨after, hrun, htidy⟩ := h.run ((s.get? "pending_action").getD .null)
  exact ⟨_, after, by rw [Session.runPending, hrun], htidy⟩

/-- Where no action waits, the editor shows what it was going to show. -/
theorem Editing.runPending {code : String} {language : Language} (h : s.Editing code language)
    (idle : s.get? "pending_action" = none) :
    s.runPending sample = (.ok .null, (s.forget "pending_action").fillIn sample) ∧
      (s.forget "pending_action").Editing code language := by
  refine ⟨?_, ?_, ?_⟩
  · rw [Session.runPending, idle]
    rfl
  · rw [get?_forget_of_ne s (by decide), h.code]
  · rw [get?_forget_of_ne s (by decide), h.label]

end Session

namespace Page

variable {v : Visit} {desk : Desk} {code : String} {language : Language}
  {Q : Except Halt Unit → Desk → Prop}

/-! ## 3. Drawing the editor -/

/-- What the editor draws where it asks for no other drawing. -/
def editorElements (code : String) (saved : Bool) : List Element :=
  [.heading "Code input", .choice "Language" (Language.all.map Language.label) "language_label",
    .editor "Paste your code" "code" 420, .caption (Display.extent code), .columns 4,
    .within 0 (.button "Analyze Code" ⟨true, true, none⟩),
    .within 1 (.button "Save" ⟨false, true, none⟩),
    .within 2 (.button "Restore" ⟨false, true, some !saved⟩),
    .within 3 (.button "Clear" ⟨false, true, none⟩)]

theorem ends_kept {Q : Except Halt Json → Desk → Prop} (name : String) (desk : Desk) :
    Ends (kept name) desk Q = Ends (need ((Json.object desk.session.members).entry name)) desk Q :=
  rfl

theorem languageOf_label (language : Language) :
    languageOf (.text language.label) = .ok language := by
  simp only [languageOf, Json.hashed, bind, Except.bind, Language.ofLabel?_label]
  rfl

/-- A value that a session holds is found there. -/
theorem entry_of_get? {s : Session} {name : String} {value : Json} (h : s.get? name = some value) :
    (Json.object s.members).entry name = .ok value := by
  rw [Session.get?] at h
  simp only [Json.entry, h]

/-- **What the editor does, button by button**: it has the source analysed, keeps it, leaves one of
two actions for another drawing, or does nothing more.  There is something to restore only where a
source was saved. -/
theorem ends_drawEditor_button (hcode : desk.session.get? "code" = some (.text code))
    (hlabel : desk.session.get? "language_label" = some (.text language.label))
    (analysed : v.pressed = some "Analyze Code" → ∀ saved, Ends (analyze v code language)
      { desk with drawn := desk.drawn ++ editorElements code saved } Q)
    (kept : v.pressed = some "Save" → ∀ drawn, Q (.ok ())
      { desk with session := desk.session.set "saved" (savedValue code language), drawn := drawn })
    (restored : v.pressed = some "Restore" → desk.session.has "saved" = true →
      ∀ drawn, Q (.error .redraw) { desk with
        session := desk.session.set "pending_action" (.text "restore"), drawn := drawn })
    (cleared : v.pressed = some "Clear" → ∀ drawn, Q (.error .redraw)
      { desk with session := desk.session.set "pending_action" (.text "clear"), drawn := drawn })
    (idle : v.pressed ≠ some "Analyze Code" → v.pressed ≠ some "Save" → v.pressed ≠ some "Clear" →
      ¬ (desk.session.has "saved" = true ∧ v.pressed = some "Restore") →
      ∀ saved, Q (.ok ()) { desk with drawn := desk.drawn ++ editorElements code saved }) :
    Ends (drawEditor v) desk Q := by
  unfold drawEditor editorButton
  simp only [ends_bind, ends_draw, next_ok, ends_kept, entry_of_get? hlabel, entry_of_get? hcode,
    ends_need, languageOf_label, sourceOf, ends_button, Option.getD_none, Bool.not_false,
    Bool.true_and, beq_iff_eq]
  -- the buttons are asked from left to right; that of an analysis takes effect behind the others
  by_cases hsave : v.pressed = some "Save"
  · simp only [hsave, if_true, ends_bind, ends_remember, ends_draw, next_ok, ends_session,
      ends_button, Bool.and_eq_true, beq_iff_eq, Option.some.injEq, String.reduceEq, and_false,
      if_false, ends_pure]
    exact kept hsave _
  rw [if_neg hsave]
  simp only [ends_bind, ends_session, next_ok, ends_button, Option.getD_some, Bool.not_not,
    Bool.and_eq_true, beq_iff_eq]
  by_cases hrestore : desk.session.has "saved" = true ∧ v.pressed = some "Restore"
  · rw [if_pos hrestore]
    simp only [queue, ends_bind, ends_remember, next_ok, ends_redraw, next_error]
    exact restored hrestore.2 hrestore.1 _
  rw [if_neg hrestore]
  simp only [ends_bind, next_ok, ends_button, Bool.not_false, Bool.true_and, beq_iff_eq]
  by_cases hclear : v.pressed = some "Clear"
  · rw [if_pos hclear]
    simp only [queue, ends_bind, ends_remember, next_ok, ends_redraw, next_error]
    exact cleared hclear _
  rw [if_neg hclear]
  simp only [List.append_assoc, List.cons_append, List.nil_append]
  by_cases hrun : v.pressed = some "Analyze Code"
  · rw [if_pos hrun]
    exact analysed hrun _
  · rw [if_neg hrun]
    exact idle hrun hsave hclear hrestore _

/-- What the editor does where it does not matter which action waits. -/
theorem ends_drawEditor (hcode : desk.session.get? "code" = some (.text code))
    (hlabel : desk.session.get? "language_label" = some (.text language.label))
    (analysed : v.pressed = some "Analyze Code" → ∀ saved, Ends (analyze v code language)
      { desk with drawn := desk.drawn ++ editorElements code saved } Q)
    (kept : v.pressed = some "Save" → ∀ drawn, Q (.ok ())
      { desk with session := desk.session.set "saved" (savedValue code language), drawn := drawn })
    (queued : v.pressed = some "Restore" ∨ v.pressed = some "Clear" →
      ∀ action drawn, Q (.error .redraw)
        { desk with session := desk.session.set "pending_action" action, drawn := drawn })
    (idle : v.pressed ≠ some "Analyze Code" → ∀ saved, Q (.ok ())
      { desk with drawn := desk.drawn ++ editorElements code saved }) :
    Ends (drawEditor v) desk Q :=
  ends_drawEditor_button hcode hlabel analysed kept
    (fun hrestore _ drawn => queued (.inl hrestore) _ drawn)
    (fun hclear drawn => queued (.inr hclear) _ drawn)
    (fun hrun _ _ _ saved => idle hrun saved)

/-! ## 4. An analysis -/

/-- An answer to an analysis can be told of. -/
theorem analysisNote_answerOf (id : Int) (language : String) (report : Report) :
    ∃ note, analysisNote (answerOf id language report) = .ok note := by
  obtain ⟨score, findings, rewritten, tally⟩ := report
  cases rewritten <;> exact ⟨_, rfl⟩

/-- **What an analysis does**: nothing for a blank source, else the answer is kept in the session,
and its record in the archive. -/
theorem ends_analyze (h : v.Healthy) {count : Nat} (ready : Service.Ready desk.archive (count + 1))
    (short : Editable code)
    (blank : (Text.strip code.toList).isEmpty = true → Q (.ok ())
      { desk with drawn := desk.drawn ++ [.warning "Please enter some code to analyze"] })
    (answered : (Text.strip code.toList).isEmpty = false → ∀ r archive,
      desk.archive.Made code language.name (Report.analyze code language.name) r archive →
      ∀ note, Q (.ok ()) {
        session := desk.session.set "result"
          (answerOf r.id language.name (Report.analyze code language.name))
        archive := archive
        drawn := desk.drawn ++ [.activity "Analyzing code...", .toast note]
        asked := desk.asked ++ [.analyze (.text code) (.text language.name)] }) :
    Ends (analyze v code language) desk Q := by
  unfold analyze
  by_cases hblank : (Text.strip code.toList).isEmpty = true
  · rw [if_pos hblank]
    exact blank hblank
  rw [if_neg hblank]
  have hne : code ≠ "" := by
    rintro rfl
    exact hblank rfl
  obtain ⟨r, answer, archive, hmade, hreply, hread⟩ := read_analyze h ready hne short language
  obtain ⟨note, hnote⟩ :=
    analysisNote_answerOf r.id language.name (Report.analyze code language.name)
  simp only [ends_bind, ends_draw, next_ok, ends_ask, hreply, hread, keepResult, Json.assign]
  simp only [ends_remember, next_ok]
  rw [answerOf] at hnote
  simp only [hnote, ends_draw, List.append_assoc, List.cons_append, List.nil_append]
  exact answered (Bool.eq_false_of_not_eq_true hblank) r archive hmade note

end Page

end Critique
