/-
# The result of an analysis on the page

A result is shown in four parts: the score and the tally, the findings with a choice of their kinds,
the rewrite if there is one, and the export. Results are JSON from outside and may be of any shape;
what is missing has a default, and a value of the wrong kind, or one that cannot be exported, ends the
drawing.

Main statements: `part_le` (the bar is never fuller than full) and `chosen_all` (without a choice
all kinds are shown).
-/
import Critique.Json.Export
import Critique.Page.Drawing

namespace Critique.Page

open Json (AccessError)
open Drawing

/-! ## 1. The score and the tally -/

/-- How much of the bar a score fills, in hundredths. -/
def part (score : Int) : Nat :=
  min score.toNat 100

theorem part_le (score : Int) : part score ≤ 100 :=
  Nat.min_le_right _ _

/-- The counts of a tally, each with its label. -/
def counts : List (String × String) :=
  [("Issues", "totalIssues"), ("Errors", "errorCount"), ("Warnings", "warningCount"),
    ("Suggestions", "suggestionCount"), ("Optimizations", "optimizationCount")]

/-- Shows one count in its column. -/
def drawCount (tally : Json) (label name : String) (column : Nat) : Drawing Unit := do
  let count ← need (tally.getD name (.int 0))
  draw (.within column (.metric label count))

/-- Shows the score and the tally. -/
def drawScore (result : Json) : Drawing Unit := do
  let tally ← need (result.getD "summary" (.object []))
  let shown ← need (result.getD "qualityScore" (.int 0))
  let score ← need shown.integer
  draw (.metric "Quality score" (.text (Numeral.text score)))
  draw (.progress (part score))
  draw (.columns counts.length)
  counts.zipIdx.forM fun ((label, name), column) => drawCount tally label name column

/-! ## 2. The findings -/

/-- The kinds of some findings, in order and each once. -/
def kindsOf (findings : List Json) : Except AccessError (List Json) := do
  let kinds ← findings.mapM fun finding => do Json.hashed (← finding.getD "type" (.text ""))
  Json.ordered kinds

/-- The kinds that are chosen: all, or those of the choice in the order of the kinds. -/
def chosen (filter : Option (List Json)) (kinds : List Json) : List Json :=
  match filter with
  | none => kinds
  | some choice => kinds.filter fun kind => choice.any (kind.same ·)

theorem chosen_all (kinds : List Json) : chosen none kinds = kinds := rfl

/-- Shows a finding if its kind is chosen; a finding without a kind never is. -/
def drawFinding (chosen : List Json) (finding : Json) : Drawing Unit := do
  let kind ← need (finding.getD "type" .null)
  if chosen.any (·.same kind) then
    draw (.line ("- " ++ (← need (Display.findingLine finding))))

/-- Shows the findings. -/
def drawFindings (visit : Visit) (result : Json) : Drawing Unit := do
  let findings ← need (result.getD "issues" (.list []))
  if findings.truthy then
    let findings ← need findings.items
    let kinds ← need (kindsOf findings)
    draw (.filter "Filter" kinds)
    draw (.heading "Issues & suggestions")
    findings.forM (drawFinding (chosen visit.filter kinds))
  else draw (.success "No issues found.")

/-! ## 3. The rewrite and the export -/

/-- Shows the rewrite, if there is one that is not empty. -/
def drawRewrite (result : Json) : Drawing Unit := do
  let rewritten ← need (result.getD "optimizedCode" .null)
  if rewritten.truthy then
    draw (.heading "Optimized code")
    draw (.source rewritten (← need (result.getD "language" (.text "javascript"))))

/-- Shows where a record is shared. -/
def drawLink : Json → Drawing Unit
  | .null => pure ()
  | id => do
    draw (.caption "Share link")
    draw (.source (.text (Display.shareLink Settings.defaultPageBase id)) (.text "text"))

/-- Offers the result as a file, and shows where it is shared if it has a number. -/
def drawExport (visit : Visit) (result : Json) : Drawing Unit := do
  draw (.heading "Export")
  let data ← need result.exported
  let name ← need (Display.exportName visit.now)
  draw (.download "Export as JSON" data name "application/json")
  drawLink (← need (result.getD "id" .null))

/-- Shows a result. -/
def drawResult (visit : Visit) (result : Json) : Drawing Unit := do
  drawScore result
  drawFindings visit result
  drawRewrite result
  drawExport visit result

end Critique.Page
