/-
# The rest of the page

Around the editor stand the head of the page, the result of the last analysis, the panel that opens
a shared record, and the latest records.  None of them changes session or archive (the `quiet_`
lemmas), except that the head is followed by the action that waits; and an error is drawn only in
the panel that opens a record, where its button is pressed (the `calm_` lemmas).

Where the session is tidy and the time can be written, they are drawn to their end, and nothing
but the panel itself stands under its name.  So it is known where on the screen a record is, and
what it is: the record that was asked for, with the tally that a record shows.

* `ends_drawLast`: the result of the last analysis is a result;
* `ends_drawOpening`: what is shown of the answer to whoever asks for a record.
-/
import Critique.Proofs.Page.Editor

namespace Critique.Page

open Drawing

variable {v : Visit} {desk : Desk} {Q : Except Halt Unit → Desk → Prop}

/-! ## 1. The head -/

/-- The head of the page, with the state of the service in words. -/
def headElements (state : String) : List Element :=
  [.setup "Code Review Assistant", .title "Code Review Assistant",
    .caption "Analyze, optimize, and improve your code", .caption state]

theorem ends_drawHead
    (hQ : ∀ state asked, Q (.ok ())
      { desk with drawn := desk.drawn ++ headElements state, asked := asked }) :
    Ends (drawHead v) desk Q := by
  unfold drawHead
  simp only [ends_bind, ends_draw, next_ok, ends_ask, reply_other v desk.archive (q := .health) rfl,
    List.append_assoc, List.cons_append, List.nil_append]
  exact hQ _ _

/-- The action that waits is run, and at most a note of it is drawn. -/
theorem ends_runPending {action : Json} {after : Session}
    (h : desk.session.runPending sample = (.ok action, after))
    (hQ : ∀ es, (∀ e ∈ es, e = .toast "Restored your saved code") →
      Q (.ok ()) { desk with session := after, drawn := desk.drawn ++ es }) :
    Ends runPending desk Q := by
  unfold runPending
  simp only [ends_bind, ends_session, next_ok, h]
  -- the session is replaced before the outcome of the action is looked at
  show Ends (need (.ok action) >>= _) { desk with session := after } Q
  simp only [ends_bind, ends_need, next_ok]
  split
  · exact hQ [.toast "Restored your saved code"] (by simp)
  · have := hQ [] (by simp)
    rwa [List.append_nil] at this

/-! ## 2. The last result -/

/-- A value that shows a record counts as true. -/
theorem Shows.truthy {value : Json} {r : Record} {tally : Tally} (h : Shows value r tally) :
    value.truthy = true := by
  cases value with
  | object members =>
    cases members with
    | nil => exact absurd h.id (by simp [Json.getD, Json.get, Entries.find?, Except.map])
    | cons member members => rfl
  | _ => exact absurd h.id (by simp [Json.getD, Json.get, Except.map])

/-- The result that a session holds is shown. -/
theorem ends_drawLast_result {value : Json} {r : Record} {tally : Tally} {name : String}
    (held : desk.session.get? "result" = some value) (shows : Shows value r tally)
    (hname : Display.exportName v.now = .ok name) :
    Ends (drawLast v) desk Q = Q (.ok ()) { desk with
      drawn := desk.drawn ++ (.heading "Analysis results"
        :: shownResult v.filter value.renderIndented name r tally) } := by
  unfold drawLast
  simp only [ends_bind, ends_draw, next_ok, ends_session, held, Option.getD_some, shows.truthy,
    if_true, (draws_result shows hname).ends, List.append_assoc, List.cons_append, List.nil_append]

/-- **The result of the last analysis is a result**: it is drawn to its end, without panels. -/
theorem ends_drawLast (tidy : desk.session.Tidy) {name : String}
    (hname : Display.exportName v.now = .ok name)
    (hQ : ∀ es, (∀ title, .panel title ∉ es) →
      Q (.ok ()) { desk with drawn := desk.drawn ++ es }) : Ends (drawLast v) desk Q := by
  have hnone : (desk.session.get? "result").getD .null = .null → Ends (drawLast v) desk Q := by
    intro hnull
    unfold drawLast
    simp only [ends_bind, ends_draw, next_ok, ends_session, hnull, Json.truthy, Bool.false_eq_true,
      if_false, List.append_assoc, List.cons_append, List.nil_append]
    exact hQ _ (by simp)
  cases held : desk.session.get? "result" with
  | none => exact hnone (by rw [held]; rfl)
  | some value =>
    rcases tidy _ _ held with rfl | ⟨r, tally, shows⟩
    · exact hnone (by rw [held]; rfl)
    · rw [ends_drawLast_result held shows hname]
      refine hQ _ fun title => ?_
      rw [List.mem_cons, not_or]
      exact ⟨by simp, notMem_shownResult (fun hplain => hplain)⟩

theorem calm_drawLast (v : Visit) : Calm (drawLast v) := by
  refine (calm_draw rfl).bind fun _ => respects_session.bind fun s => ?_
  dsimp only
  split
  · exact calm_drawResult v _
  · exact calm_draw rfl

/-! ## 3. The panel that opens a record -/

/-- What stands in the panel before the record. -/
def openingElements : List Element :=
  [.numberField "Analysis id", .button "Load" ⟨false, false, none⟩]

/-- What is shown of a record that was answered. -/
theorem draws_shared_record {r : Record} (writable : r.Writable) {name : String}
    (hname : Display.exportName v.now = .ok name) :
    Draws (drawShared v (.ok r.toJson)) () (.source (.text r.code) (.text r.language)
      :: shownResult v.filter r.toJson.renderIndented name r .zero) := by
  have hcode : r.toJson.getD "code" (.text "") = .ok (.text r.code) := by
    simp [Record.toJson, Json.getD, Json.get, Entries.find?, Except.map]
  have hlanguage : r.toJson.getD "language" (.text "text") = .ok (.text r.language) := by
    simp [Record.toJson, Json.getD, Json.get, Entries.find?, Except.map]
  exact draws_need_bind hcode (draws_need_bind hlanguage
    (draws_draw_bind (draws_result (shows_record writable) hname)))

/-- What is shown where there is no record. -/
theorem draws_shared_null (v : Visit) :
    Draws (drawShared v (.ok .null)) () [.warning "Analysis not found"] :=
  draws_draw _

/-- What is shown of a failure. -/
theorem draws_shared_error (v : Visit) (error : ClientError) :
    Draws (drawShared v (.error error)) ()
      [.error ("Failed to load analysis: " ++ error.message), .warning "Analysis not found"] :=
  draws_draw_bind (draws_draw _)

/-- **What stands in the panel** where a number is asked for is what is shown of the answer. -/
theorem ends_drawOpening {id : Int} {es : List Element} (pressed : v.pressed = some "Load")
    (wanted : v.sharedId.integer = .ok id)
    (shown : Draws (drawShared v ((Question.analysis (.int id)).read
      (reply v desk.archive (.analysis (.int id))).1)) () es) :
    Ends (drawOpening v) desk Q = Q (.ok ()) { desk with
      drawn := desk.drawn ++ (.panel "Open a shared analysis" :: (openingElements ++ es))
      asked := desk.asked ++ [.analysis (.int id)] } := by
  unfold drawOpening fetchShared
  simp only [ends_bind, ends_draw, next_ok, ends_button, pressed, Bool.not_false, Bool.true_and,
    beq_self_eq_true, if_true, wanted, ends_ask,
    reply_other v desk.archive (q := .analysis (.int id)) rfl, shown.ends, openingElements,
    List.append_assoc, List.cons_append, List.nil_append]

/-! ## 4. Whatever is replied -/

theorem quiet_drawShared (v : Visit) (answer : Except ClientError Json) :
    Quiet (drawShared v answer) := by
  unfold drawShared
  split
  · exact (quiet_draw _).bind fun _ => quiet_draw _
  · exact quiet_draw _
  · exact (respects_need _).bind fun code => (respects_need _).bind fun language =>
      (quiet_draw _).bind fun _ => (calm_drawResult v _).quiet

theorem quiet_drawOpening (v : Visit) : Quiet (drawOpening v) := by
  refine (quiet_draw _).bind fun _ => (quiet_draw _).bind fun _ =>
    (calm_button v rfl _ _).quiet.bind fun pressed => ?_
  split
  · refine Respects.bind ?_ fun answer => quiet_drawShared v answer
    unfold fetchShared
    split
    · exact (calm_ask v rfl).quiet
    · exact respects_pure _
  · exact respects_pure ()

/-- Where its button is not pressed, the panel opens nothing. -/
theorem calm_drawOpening (h : v.pressed ≠ some "Load") : Calm (drawOpening v) := by
  intro desk
  have hidle : (v.pressed == some "Load") = false := by simpa using h
  unfold drawOpening
  simp only [ends_bind, ends_draw, next_ok, ends_button, hidle, Bool.and_false, Bool.false_eq_true,
    if_false, ends_pure, List.append_assoc, List.cons_append, List.nil_append]
  exact ⟨unalarmed_append desk rfl, ok_ne_redraw ()⟩

/-- The lines of records are captions and lines. -/
theorem texts_recordLines (records : List Json) : texts .error (recordLines records) = [] := by
  induction records with
  | nil => rfl
  | cons record records ih =>
    unfold recordLines
    split
    · exact ih
    · rfl

theorem texts_recentLines (answer : Except ClientError Json) :
    texts .error (recentLines answer) = [] := by
  unfold recentLines
  split
  · rfl
  · split
    · rfl
    · exact texts_recordLines _

theorem calm_drawRecent (v : Visit) : Calm (drawRecent v) :=
  (calm_draw rfl).bind fun _ => (calm_ask v rfl).bind fun answer =>
    calm_drawAll (texts_recentLines answer)

end Critique.Page
