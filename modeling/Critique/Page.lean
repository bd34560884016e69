/-
# The page

The page has an editor with a choice of languages and four buttons, the result of the last analysis,
a panel that opens a shared record, and a list of the latest ones.

* *Analyze Code* has the source analysed and keeps the result in the session;
* *Save* keeps the source and its language, *Restore* brings them back, *Clear* empties the editor;
  the last two take effect in another drawing, which follows at once and in which no button is
  pressed;
* *Load* asks for a record by its number.

What goes wrong with a question is told on the page; a result of an unexpected shape ends the
drawing.

Main statements: `visit_of_ok` and `visit_of_redraw` (one drawing is enough unless it asks for
another).
-/
import Critique.Page.Result

namespace Critique.Page

open Json (AccessError)
open Drawing

/-! ## 1. The editor -/

/-- The source that a new visitor finds in the editor. -/
def sample : String :=
  "\n".intercalate
    ["def analyze_data(data):",
      "    results = []",
      "    for item in data:",
      "        if item['status'] == 'active':",
      "            results.append(\x7b",
      "                'id': item['id'],",
      "                'processed_at': str(datetime.now())",
      "            \x7d)",
      "    return results",
      ""]

/-- The value that a control keeps in the session. -/
def kept (name : String) : Drawing Json := do
  need ((Json.object (← session).members).entry name)

/-- The language of the label that was chosen. -/
def languageOf (label : Json) : Except AccessError Language := do
  match ← Json.hashed label with
  | .text text =>
    match Language.ofLabel? text with
    | some language => return language
    | none => throw (.missing (Json.shownKey label))
  | _ => throw (.missing (Json.shownKey label))

/-- The source in the editor. -/
def sourceOf : Json → Except AccessError String
  | .text code => .ok code
  | value => .error (.lacks value.kind "split")

/-- What is told of an analysis that failed. -/
def analysisFailure : ClientError → String
  | .answered message _ =>
    if message = "" then "Failed to analyze code. Please try again." else message
  | error => "Failed to analyze code: " ++ error.message

/-- What is told of an analysis. -/
def analysisNote (result : Json) : Except AccessError String := do
  let total ← (← result.entry "summary").entry "totalIssues"
  let score ← result.entry "qualityScore"
  return "Found " ++ total.display ++ " issues with a quality score of " ++ score.display ++ "%"

/-- Keeps the answer to an analysis in the session, with the language, and tells of it. -/
def keepResult (language : Language) (answer : Json) : Drawing Unit := do
  match answer.assign "language" (.text language.name) with
  | .error error => draw (.error (analysisFailure (.unusable error)))
  | .ok result =>
    remember "result" result
    match analysisNote result with
    | .ok note => draw (.toast note)
    | .error error => draw (.error (analysisFailure (.unusable error)))

/-- Has a source analysed. -/
def analyze (visit : Visit) (code : String) (language : Language) : Drawing Unit := do
  if (Text.strip code.toList).isEmpty then draw (.warning "Please enter some code to analyze")
  else
    draw (.activity "Analyzing code...")
    match ← ask visit (.analyze (.text code) (.text language.name)) with
    | .ok answer => keepResult language answer
    | .error error => draw (.error (analysisFailure error))

/-- Leaves an action for the next drawing and asks for it. -/
def queue (action : String) : Drawing Unit := do
  remember "pending_action" (.text action)
  redraw

/-- A button in a column of the editor. -/
def editorButton (visit : Visit) (column : Nat) (label : String) (primary : Bool)
    (disabled : Option Bool) : Drawing Bool :=
  button visit (.within column (.button label ⟨primary, true, disabled⟩)) label
    (disabled.getD false)

/-- The editor and its buttons. -/
def drawEditor (visit : Visit) : Drawing Unit := do
  draw (.heading "Code input")
  draw (.choice "Language" (Language.all.map Language.label) "language_label")
  let language ← need (languageOf (← kept "language_label"))
  draw (.editor "Paste your code" "code" 420)
  let code ← need (sourceOf (← kept "code"))
  draw (.caption (Display.extent code))
  draw (.columns 4)
  let run ← editorButton visit 0 "Analyze Code" true none
  if ← editorButton visit 1 "Save" false none then
    remember "saved" (.object [("code", .text code), ("language", .text language.name)])
    draw (.toast "Your code has been saved for this session")
  let nothingSaved := !(← session).has "saved"
  if ← editorButton visit 2 "Restore" false (some nothingSaved) then
    queue "restore"
  if ← editorButton visit 3 "Clear" false none then
    queue "clear"
  if run then
    analyze visit code language

/-! ## 2. The panels -/

/-- The result of the last analysis. -/
def drawLast (visit : Visit) : Drawing Unit := do
  draw (.heading "Analysis results")
  let result := ((← session).get? "result").getD .null
  if result.truthy then drawResult visit result
  else draw (.info "Run an analysis to see results here.")

/-- Asks for the record of the number that was entered. -/
def fetchShared (visit : Visit) : Drawing (Except ClientError Json) := do
  match visit.sharedId.integer with
  | .ok id => ask visit (.analysis (.int id))
  | .error error => return .error (.unusable error)

/-- Shows the record that was asked for, or what went wrong; what went wrong is not found either. -/
def drawShared (visit : Visit) : Except ClientError Json → Drawing Unit
  | .error error => do
    draw (.error ("Failed to load analysis: " ++ error.message))
    draw (.warning "Analysis not found")
  | .ok .null => draw (.warning "Analysis not found")
  | .ok stored => do
    let code ← need (stored.getD "code" (.text ""))
    draw (.source code (← need (stored.getD "language" (.text "text"))))
    drawResult visit stored

/-- The panel that opens a shared record. -/
def drawOpening (visit : Visit) : Drawing Unit := do
  draw (.panel "Open a shared analysis")
  draw (.numberField "Analysis id")
  if ← button visit (.button "Load" ⟨false, false, none⟩) "Load" false then
    drawShared visit (← fetchShared visit)

/-- A record in one line. -/
def recordLine (record : Json) : Except AccessError String := do
  let id ← record.entry "id"
  let language ← record.entry "language"
  let score ← record.entry "qualityScore"
  let created ← record.entry "createdAt"
  return "- #" ++ id.display ++ " · " ++ language.display ++ " · score " ++ score.display ++ " · "
    ++ created.display

/-- Tells why the latest records cannot be listed. -/
def unavailable (message : String) : Element :=
  .caption ("Recent analyses unavailable: " ++ message)

/-- The lines of records, up to the first that has none. -/
def recordLines : List Json → List Element
  | [] => []
  | record :: rest =>
    match recordLine record with
    | .ok text => .line text :: recordLines rest
    | .error error => [unavailable error.message]

/-- The latest records, as far as they can be listed. -/
def recentLines : Except ClientError Json → List Element
  | .error error => [unavailable error.message]
  | .ok answer =>
    match answer.items with
    | .error error => [unavailable error.message]
    | .ok records => recordLines records

/-- The panel of the latest records. -/
def drawRecent (visit : Visit) : Drawing Unit := do
  draw (.panel "Recent analyses")
  drawAll (recentLines (← ask visit (.recent (.int Archive.defaultLimit))))

/-! ## 3. The page as a whole -/

/-- Runs the action that an earlier drawing has left. -/
def runPending : Drawing Unit := do
  let (outcome, session) := (← session).runPending sample
  modify fun desk => { desk with session := session }
  match ← need outcome with
  | .text "restore" => draw (.toast "Restored your saved code")
  | _ => pure ()

/-- The head of the page, with the state of the service. -/
def drawHead (visit : Visit) : Drawing Unit := do
  draw (.setup "Code Review Assistant")
  draw (.title "Code Review Assistant")
  draw (.caption "Analyze, optimize, and improve your code")
  let healthy := match ← ask visit .health with
    | .ok (.bool true) => true
    | _ => false
  draw (.caption (if healthy then "API: Connected" else "API: Not reachable"))

/-- One drawing of the page. -/
def drawPage (visit : Visit) : Drawing Unit := do
  drawHead visit
  runPending
  draw (.sides 2 1)
  drawEditor visit
  drawLast visit
  draw (.line "---")
  drawOpening visit
  drawRecent visit

/-- How a visit ends: with nothing, or with the cause that ended the last drawing. -/
def fault? : Except Halt Unit → Option AccessError
  | .error (.fault error) => some error
  | _ => none

/-- **A visit: one drawing, and another one without a pressed button if the first asks for it.** -/
def visit (v : Visit) (session : Session) (archive : Archive) : Option AccessError × Desk :=
  let (outcome, desk) := (drawPage v).run ⟨session, archive, [], []⟩
  match outcome with
  | .error .redraw =>
    let (outcome, desk) := (drawPage { v with pressed := none }).run desk
    (fault? outcome, desk)
  | outcome => (fault? outcome, desk)

theorem visit_of_ok {v : Visit} {session : Session} {archive : Archive} {desk : Desk}
    (h : (drawPage v).run ⟨session, archive, [], []⟩ = (.ok (), desk)) :
    visit v session archive = (none, desk) := by
  simp [visit, h, fault?]

theorem visit_of_redraw {v : Visit} {session : Session} {archive : Archive} {desk : Desk}
    (h : (drawPage v).run ⟨session, archive, [], []⟩ = (.error .redraw, desk)) :
    (visit v session archive).2 = ((drawPage { v with pressed := none }).run desk).2 := by
  unfold visit
  rw [h]
  rfl

end Critique.Page
