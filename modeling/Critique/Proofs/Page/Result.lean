/-
# What is drawn of a result

The page draws the answer to an analysis and a stored record with one piece of code, and the two are
not of one shape: the answer has a tally and leaves the rewrite out where there is none, the record
has no tally and a null.  What the piece reads of a value, defaults included, is all that matters to
it.  `Shows` says that it reads the data of a record and some tally, and that the value can be
exported; `draws_result` says what it draws then, element by element.

The answer shows the tally of its report (`shows_answer`).  The record shows a tally as well, for a
missing one is read as an empty object and each missing count as zero (`shows_record`).

* `kindsOf_toJson` and `findingLine_toJson`: findings can be shown;
* `metrics_shownResult`: the values of a result are its score and its tally;
* `draws_result`: what is drawn of a value that shows a record;
* `calm_drawResult`: whatever the value is, session and archive are left alone, and no error is
  drawn.
-/
import Critique.Proofs.Json.Export
import Critique.Proofs.Page.Steps
import Critique.Proofs.RecordCodec

namespace Critique

open Page Page.Drawing
open Json (AccessError)

/-! ## 1. Findings -/

/-- A finding in one line. -/
def Finding.shown (f : Finding) : String :=
  Display.mark f.kind ++ " **" ++ f.category ++ "** · " ++ Display.place f.line ++ " · _"
    ++ f.severity.name ++ "_: " ++ f.message

theorem Finding.getD_type (f : Finding) (default : Json) :
    f.toJson.getD "type" default = .ok (.text f.kind.name) := by
  simp [toJson, Json.getD, Json.get, Entries.find?, Except.map]

theorem Display.findingLine_toJson (f : Finding) : findingLine f.toJson = .ok f.shown := by
  have hmark : markOf (.text f.kind.name) = .ok (mark f.kind) := by
    simp only [markOf, Json.hashed, bind, Except.bind, Kind.ofName?_name]
    rfl
  have hlocation : location f.toJson = .ok (place f.line) :=
    location_int (by simp [Entries.find?])
  have hmember : f.toJson.getD "category" (.text "") = .ok (.text f.category) ∧
      f.toJson.getD "severity" (.text "") = .ok (.text f.severity.name) ∧
      f.toJson.getD "message" (.text "") = .ok (.text f.message) := by
    simp [Finding.toJson, Json.getD, Json.get, Entries.find?, Except.map]
  rw [findingLine, f.getD_type, hmember.1, hmember.2.1, hmember.2.2, hlocation]
  simp only [bind, Except.bind, hmark]
  rfl

/-- An export at a whole second has a name. -/
theorem Display.exportName_whole {n : Int} (h : Numeral.Short (n * 1000)) :
    exportName (.whole n) = .ok ("code-analysis-" ++ Numeral.text (n * 1000) ++ ".json") := by
  rw [exportName, Seconds.milliseconds]
  simp only [bind, Except.bind, Numeral.writtenWithin_of_le h]
  rfl

/-- Texts can be compared. -/
theorem Json.comparable_texts (names : List String) :
    comparable (names.map Json.text) = .ok () := by
  induction names with
  | nil => rfl
  | cons a names ih =>
    cases names with
    | nil => rfl
    | cons b names =>
      rw [List.map_cons, List.map_cons, comparable]
      exact ih

/-- Of texts, texts are kept. -/
theorem Json.distinct_texts (names : List String) :
    ∃ kept : List String, distinct (names.map Json.text) = kept.map Json.text := by
  have hfold : ∀ (names known : List String), ∃ kept : List String,
      (names.map Json.text).foldl
        (fun known value => if known.any (same · value) then known else known ++ [value])
        (known.map Json.text) = kept.map Json.text := by
    intro names
    induction names with
    | nil => exact fun known => ⟨known, rfl⟩
    | cons name names ih =>
      intro known
      rw [List.map_cons, List.foldl_cons]
      split
      · exact ih known
      · obtain ⟨kept, hkept⟩ := ih (known ++ [name])
        exact ⟨kept, by rw [← hkept, List.map_append]; rfl⟩
  exact hfold names []

/-- Only of no findings is the tally zero. -/
theorem Tally.ofFindings_eq_zero_iff {fs : List Finding} : ofFindings fs = .zero ↔ fs = [] := by
  constructor
  · intro h
    have htotal := congrArg Tally.total h
    exact List.length_eq_zero_iff.mp (Int.ofNat.inj htotal)
  · rintro rfl
    rfl

namespace Page

/-- **The kinds of findings can be put in order.** -/
theorem kindsOf_toJson (findings : List Finding) :
    ∃ kinds, kindsOf (findings.map Finding.toJson) = .ok kinds := by
  have hkinds : (findings.map Finding.toJson).mapM (fun finding => do
      Json.hashed (← finding.getD "type" (.text ""))) =
      .ok ((findings.map fun f => f.kind.name).map Json.text) := by
    induction findings with
    | nil => rfl
    | cons f findings ih =>
      rw [List.map_cons, List.mapM_cons, ih, f.getD_type]
      rfl
  obtain ⟨kept, hkept⟩ := Json.distinct_texts (findings.map fun f => f.kind.name)
  refine ⟨(kept.map Json.text).mergeSort fun a b => !((Json.less b a).toOption.getD false), ?_⟩
  rw [kindsOf, hkinds]
  simp only [bind, Except.bind, Json.ordered, hkept, Json.comparable_texts, pure, Except.pure]

/-! ## 2. What is drawn -/

/-- The score and a tally. -/
def shownScore (score : Int) (tally : Tally) : List Element :=
  [.metric "Quality score" (.text (Numeral.text score)), .progress (part score), .columns 5,
    .within 0 (.metric "Issues" (.int tally.total)),
    .within 1 (.metric "Errors" (.int tally.errors)),
    .within 2 (.metric "Warnings" (.int tally.warnings)),
    .within 3 (.metric "Suggestions" (.int tally.suggestions)),
    .within 4 (.metric "Optimizations" (.int tally.optimizations))]

/-- The lines of the findings of chosen kinds. -/
def shownLines (chosen : List Json) (findings : List Finding) : List Element :=
  findings.flatMap fun f =>
    if chosen.any (·.same (.text f.kind.name)) then [.line ("- " ++ f.shown)] else []

/-- The findings, with a choice of their kinds. -/
def shownFindings (filter : Option (List Json)) (findings : List Finding) : List Element :=
  if findings = [] then [.success "No issues found."]
  else
    match kindsOf (findings.map Finding.toJson) with
    | .ok kinds => .filter "Filter" kinds :: .heading "Issues & suggestions"
        :: shownLines (chosen filter kinds) findings
    | .error _ => []

/-- The rewrite, if there is one that is not empty. -/
def shownRewrite (language : String) : Option String → List Element
  | none => []
  | some code =>
    if code = "" then []
    else [.heading "Optimized code", .source (.text code) (.text language)]

/-- The export, and where the record is shared. -/
def shownExport (data name : String) (id : Int) : List Element :=
  [.heading "Export", .download "Export as JSON" data name "application/json",
    .caption "Share link",
    .source (.text (Display.shareLink Settings.defaultPageBase (.int id))) (.text "text")]

/-- The result that a record keeps, with a tally, and the data and the name of its export. -/
def shownResult (filter : Option (List Json)) (data name : String) (r : Record) (tally : Tally) :
    List Element :=
  shownScore r.score tally ++ (shownFindings filter r.findings
    ++ (shownRewrite r.language r.rewritten ++ shownExport data name r.id))

/-! ## 3. What a result is made of -/

/-- The label and the value of an element that shows a value. -/
def Element.metric? : Element → Option (String × Json)
  | .metric label value => some (label, value)
  | .within _ element => element.metric?
  | _ => none

/-- The values on the screen, with their labels. -/
def metrics (drawn : List Element) : List (String × Json) :=
  drawn.filterMap Element.metric?

/-- The values that a score and a tally are shown as. -/
def shownValues (score : Int) (tally : Tally) : List (String × Json) :=
  [("Quality score", .text (Numeral.text score)), ("Issues", .int tally.total),
    ("Errors", .int tally.errors), ("Warnings", .int tally.warnings),
    ("Suggestions", .int tally.suggestions), ("Optimizations", .int tally.optimizations)]

theorem shownValues_inj {score : Int} {tally tally' : Tally} :
    shownValues score tally = shownValues score tally' ↔ tally = tally' := by
  cases tally
  cases tally'
  simp [shownValues]

/-- An element that shows no value, opens no panel, and is no rule across the page. -/
def Element.Plain : Element → Prop
  | .metric _ _ => False
  | .within _ _ => False
  | .text .panel _ => False
  | .text .line t => t ≠ "---"
  | _ => True

theorem Element.Plain.metric? {e : Element} (h : e.Plain) : e.metric? = none := by
  cases e with
  | metric => exact h.elim
  | within => exact h.elim
  | _ => rfl

theorem plain_finding (f : Finding) : Element.Plain (.line ("- " ++ f.shown)) := by
  intro he
  have hlist := congrArg String.toList he
  simp at hlist

/-- Behind its score and its tally, a result is plain. -/
theorem plain_of_mem {filter : Option (List Json)} {data name : String} {r : Record} {e : Element}
    (h : e ∈ shownFindings filter r.findings
      ++ (shownRewrite r.language r.rewritten ++ shownExport data name r.id)) : e.Plain := by
  rcases List.mem_append.mp h with hfinding | hrest
  · unfold shownFindings at hfinding
    split at hfinding
    · obtain rfl := List.mem_singleton.mp hfinding
      trivial
    · split at hfinding
      · rcases List.mem_cons.mp hfinding with rfl | hfinding
        · trivial
        rcases List.mem_cons.mp hfinding with rfl | hfinding
        · trivial
        obtain ⟨f, -, hline⟩ := List.mem_flatMap.mp hfinding
        split at hline
        · obtain rfl := List.mem_singleton.mp hline
          exact plain_finding f
        · exact absurd hline List.not_mem_nil
      · exact absurd hfinding List.not_mem_nil
  rcases List.mem_append.mp hrest with hrewrite | hexport
  · unfold shownRewrite at hrewrite
    split at hrewrite
    · exact absurd hrewrite List.not_mem_nil
    · split at hrewrite
      · exact absurd hrewrite List.not_mem_nil
      · simp only [List.mem_cons, List.not_mem_nil, or_false] at hrewrite
        rcases hrewrite with rfl | rfl <;> trivial
  · simp only [shownExport, List.mem_cons, List.not_mem_nil, or_false] at hexport
    rcases hexport with rfl | rfl | rfl | rfl <;> trivial

section

variable {filter : Option (List Json)} {data name : String} {r : Record} {tally : Tally}

/-- A result opens no panel, and no rule is drawn in it. -/
theorem notMem_shownResult {style : Style} {t : String} (h : ¬ (Element.text style t).Plain) :
    .text style t ∉ shownResult filter data name r tally := by
  intro hmem
  rcases List.mem_append.mp hmem with hscore | hrest
  · simp [shownScore] at hscore
  · exact h (plain_of_mem hrest)

/-- A result is told in four styles. -/
theorem notMem_shownResult_of_style {style : Style} {t : String}
    (h : style ∉ [.success, .heading, .line, .caption]) :
    .text style t ∉ shownResult filter data name r tally := by
  simp only [List.mem_cons, List.not_mem_nil, or_false, not_or] at h
  have hscore : .text style t ∉ shownScore r.score tally := by simp [shownScore]
  have hfindings : .text style t ∉ shownFindings filter r.findings := by
    unfold shownFindings
    split
    · simp [h]
    · split
      · simp [shownLines, h]
      · exact List.not_mem_nil
  have hrewrite : .text style t ∉ shownRewrite r.language r.rewritten := by
    unfold shownRewrite
    split
    · exact List.not_mem_nil
    · split <;> simp [h]
  have hexport : .text style t ∉ shownExport data name r.id := by simp [shownExport, h]
  simp only [shownResult, List.mem_append, not_or]
  exact ⟨hscore, hfindings, hrewrite, hexport⟩

/-- **The values of a result are its score and its tally.** -/
theorem metrics_shownResult :
    metrics (shownResult filter data name r tally) = shownValues r.score tally := by
  have hrest : metrics (shownFindings filter r.findings
      ++ (shownRewrite r.language r.rewritten ++ shownExport data name r.id)) = [] :=
    List.filterMap_eq_nil_iff.mpr fun e he => (plain_of_mem he).metric?
  rw [shownResult, metrics, List.filterMap_append]
  show _ ++ metrics _ = _
  rw [hrest]
  rfl

end

/-! ## 4. What is read of a value -/

/-- What is read of a value is what a record keeps, and a tally. -/
structure Shows (value : Json) (r : Record) (tally : Tally) : Prop where
  tally : ∃ summary, value.getD "summary" (.object []) = .ok summary ∧
    (counts.map fun count => summary.getD count.2 (.int 0)) =
      [.ok (.int tally.total), .ok (.int tally.errors), .ok (.int tally.warnings),
        .ok (.int tally.suggestions), .ok (.int tally.optimizations)]
  score : value.getD "qualityScore" (.int 0) = .ok (.int r.score)
  findings : value.getD "issues" (.list []) = .ok (.list (r.findings.map Finding.toJson))
  rewritten : value.getD "optimizedCode" .null = .ok (.ofText? r.rewritten)
  language : value.getD "language" (.text "javascript") = .ok (.text r.language)
  id : value.getD "id" .null = .ok (.int r.id)
  exported : value.exported = .ok value.renderIndented

/-- **A record shows what it keeps, and a tally of zeros.** -/
theorem shows_record {r : Record} (writable : r.Writable) : Shows r.toJson r .zero := by
  have hexported : r.toJson.exported = .ok r.toJson.renderIndented :=
    Json.exported_of_readable (Record.readable_toJson writable 0) (by decide)
  refine ⟨?_, ?_, ?_, ?_, ?_, ?_, hexported⟩ <;>
    simp [Record.toJson, Json.getD, Json.get, Entries.find?, Except.map, Tally.zero, counts]

/-- The answer to a report that was kept under a number, with the language that the page adds. -/
def answerOf (id : Int) (language : String) (report : Report) : Json :=
  .object (Entries.set (.text "language") (.text language) (("id", .int id) :: report.members))

/-- **An answer shows what the record of its report keeps, and the tally of the report.** -/
theorem shows_answer {id : Int} {report : Report}
    (readable : Json.Readable 3 (.object (("id", .int id) :: report.members)))
    (code language : String) (created : Time.Stamp) :
    Shows (answerOf id language report) (Record.ofReport id code language report created)
      report.tally := by
  have hexported : (answerOf id language report).exported =
      .ok (answerOf id language report).renderIndented :=
    Json.exported_of_readable (readable.set "language" language) (by decide)
  obtain ⟨score, findings, rewritten, tally⟩ := report
  refine ⟨?_, ?_, ?_, ?_, ?_, ?_, hexported⟩ <;> cases rewritten <;>
    simp [answerOf, Report.members, Record.ofReport, Json.getD, Json.get, Entries.set,
      Entries.find?, Except.map, Json.ofText?, Tally.toJson, counts]

/-! ## 5. How it is drawn -/

section

variable {visit : Visit} {value : Json} {r : Record} {tally : Tally}

theorem draws_score (h : Shows value r tally) :
    Draws (drawScore value) () (shownScore r.score tally) := by
  obtain ⟨summary, hsummary, hcounts⟩ := h.tally
  simp only [counts, List.map_cons, List.map_nil, List.cons.injEq, and_true] at hcounts
  obtain ⟨htotal, herrors, hwarnings, hsuggestions, hoptimizations⟩ := hcounts
  have hcount : ∀ {name : String} {n : Int}, summary.getD name (.int 0) = .ok (.int n) →
      ∀ label column, Draws (drawCount summary label name column) ()
        [.within column (.metric label (.int n))] :=
    fun hn label column => draws_need_bind hn (draws_draw _)
  refine draws_need_bind hsummary (draws_need_bind h.score (draws_need_bind rfl ?_))
  refine draws_draw_bind (draws_draw_bind (draws_draw_bind ?_))
  exact (hcount htotal _ _).bind ((hcount herrors _ _).bind ((hcount hwarnings _ _).bind
    ((hcount hsuggestions _ _).bind ((hcount hoptimizations _ _).bind (draws_pure ())))))

theorem draws_finding (chosen : List Json) (f : Finding) :
    Draws (drawFinding chosen f.toJson) ()
      (if chosen.any (·.same (.text f.kind.name)) then [.line ("- " ++ f.shown)] else []) := by
  refine draws_need_bind (f.getD_type _) ?_
  split
  · exact draws_need_bind (Display.findingLine_toJson f) (draws_draw _)
  · exact draws_pure ()

theorem draws_findings (h : Shows value r tally) :
    Draws (drawFindings visit value) () (shownFindings visit.filter r.findings) := by
  refine draws_need_bind h.findings ?_
  unfold shownFindings
  cases hfindings : r.findings with
  | nil => exact draws_draw _
  | cons f findings =>
    obtain ⟨kinds, hkinds⟩ := kindsOf_toJson (f :: findings)
    rw [if_neg (List.cons_ne_nil f findings), hkinds]
    refine draws_need_bind rfl (draws_need_bind hkinds (draws_draw_bind (draws_draw_bind ?_)))
    exact Draws.forM (draws_finding (chosen visit.filter kinds)) (f :: findings)

theorem draws_rewrite (h : Shows value r tally) :
    Draws (drawRewrite value) () (shownRewrite r.language r.rewritten) := by
  refine draws_need_bind h.rewritten ?_
  cases r.rewritten with
  | none => exact draws_pure ()
  | some code =>
    by_cases hcode : code = ""
    · subst hcode
      exact draws_pure ()
    · have htruthy : (Json.ofText? (some code)).truthy = true := by
        simp [Json.ofText?, Json.truthy, hcode]
      rw [htruthy, if_pos rfl, shownRewrite, if_neg hcode]
      exact draws_draw_bind (draws_need_bind h.language (draws_draw _))

theorem draws_export (h : Shows value r tally) {name : String}
    (hname : Display.exportName visit.now = .ok name) :
    Draws (drawExport visit value) () (shownExport value.renderIndented name r.id) :=
  draws_draw_bind (draws_need_bind h.exported (draws_need_bind hname (draws_draw_bind
    (draws_need_bind h.id (draws_draw_bind (draws_draw _))))))

/-- **What is drawn of a value that shows a record.** -/
theorem draws_result (h : Shows value r tally) {name : String}
    (hname : Display.exportName visit.now = .ok name) :
    Draws (drawResult visit value) ()
      (shownResult visit.filter value.renderIndented name r tally) :=
  (draws_score h).bind ((draws_findings h).bind ((draws_rewrite h).bind (draws_export h hname)))

end

/-! ## 6. Whatever the value is -/

theorem calm_drawScore (value : Json) : Calm (drawScore value) := by
  refine (respects_need _).bind fun tally => (respects_need _).bind fun shown =>
    (respects_need _).bind fun score => (calm_draw rfl).bind fun _ => (calm_draw rfl).bind fun _ =>
    (calm_draw rfl).bind fun _ => Respects.forM (fun ((label, name), column) => ?_) _
  exact (respects_need _).bind fun count => calm_draw rfl

theorem calm_drawFinding (chosen : List Json) (finding : Json) :
    Calm (drawFinding chosen finding) := by
  refine (respects_need _).bind fun kind => ?_
  split
  · exact (respects_need _).bind fun text => calm_draw rfl
  · exact respects_pure ()

theorem calm_drawFindings (visit : Visit) (value : Json) : Calm (drawFindings visit value) := by
  refine (respects_need _).bind fun findings => ?_
  split
  · exact (respects_need _).bind fun items => (respects_need _).bind fun kinds =>
      (calm_draw rfl).bind fun _ => (calm_draw rfl).bind fun _ =>
      Respects.forM (calm_drawFinding _) items
  · exact calm_draw rfl

theorem calm_drawRewrite (value : Json) : Calm (drawRewrite value) := by
  refine (respects_need _).bind fun rewritten => ?_
  split
  · exact (calm_draw rfl).bind fun _ => (respects_need _).bind fun language => calm_draw rfl
  · exact respects_pure ()

theorem calm_drawExport (visit : Visit) (value : Json) : Calm (drawExport visit value) := by
  refine (calm_draw rfl).bind fun _ => (respects_need _).bind fun data =>
    (respects_need _).bind fun name => (calm_draw rfl).bind fun _ =>
    (respects_need _).bind fun id => ?_
  unfold drawLink
  split
  · exact respects_pure ()
  · exact (calm_draw rfl).bind fun _ => calm_draw rfl

/-- **Session and archive are left alone**, and no error is drawn, whatever the value is. -/
theorem calm_drawResult (visit : Visit) (value : Json) : Calm (drawResult visit value) :=
  (calm_drawScore value).bind fun _ => (calm_drawFindings visit value).bind fun _ =>
    (calm_drawRewrite value).bind fun _ => calm_drawExport visit value

end Page

end Critique
