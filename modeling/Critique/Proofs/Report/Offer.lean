/-
# When a rewrite is offered

A rewrite is offered if the scan has found anything, and points are taken off for what the scan has
found.  The two are kept apart while a source is scanned, as a list of findings and as a number of
points, but neither grows without the other: no rule and no check of the source as a whole is without
a penalty.  So every finding of a scan costs a point at least, and where nothing is found, nothing is
lost (`Scan.Charged`).  This holds of the scan of a line, it is kept when scans are put after one
another, and so it holds of the scan of a source.

Hence the points tell whether anything was found, the floor of the score notwithstanding.  Insights
come in after that, and neither the points nor the decision know of them.  What is shown tells the
two apart, since an insight says what no scan does: where only insights are shown, the scan has found
nothing.

* `Scan.charged_all`: a scan costs points exactly for what it finds;
* `findings_scan_eq_nil`: where nothing is shown but insights, nothing was found;
* `Report.score_lt_iff`: points are lost where the scan finds something;
* `Report.offered_iff_points_lost`: a rewrite is offered exactly when points were lost.
-/
import Critique.Proofs.Grouping.Entries
import Critique.Proofs.Report.Findings
import Mathlib.Algebra.Order.BigOperators.Group.List

namespace Critique

open Grouping LineCheck

/-! ## 1. Findings cost points -/

/-- A scan in which every finding costs a point at least, and nothing else costs any. -/
structure Scan.Charged (s : Scan) : Prop where
  findings : s.findings.length ≤ s.penalty
  nothing : s.findings = [] → s.penalty = 0

namespace Scan

theorem charged_empty : empty.Charged :=
  ⟨Nat.le_refl 0, fun _ => rfl⟩

theorem Charged.append {s t : Scan} (hs : s.Charged) (ht : t.Charged) : (s.append t).Charged where
  findings := by
    rw [findings_append, penalty_append, List.length_append]
    exact Nat.add_le_add hs.findings ht.findings
  nothing := by
    intro h
    obtain ⟨hs', ht'⟩ := List.append_eq_nil_iff.mp h
    rw [penalty_append, hs.nothing hs', ht.nothing ht']

/-- What fires is charged, if all of it has a penalty. -/
theorem charged_hits {α : Type} {hits : List α} {points : α → Nat}
    (h : ∀ hit ∈ hits, 0 < points hit) (finding : α → Finding) :
    Charged ⟨hits.map finding, (hits.map points).foldr (· + ·) 0⟩ where
  findings := by
    have hsum : (hits.map points).length ≤ (hits.map points).sum := by
      refine List.length_le_sum_of_one_le _ fun n hn => ?_
      obtain ⟨hit, hhit, rfl⟩ := List.mem_map.mp hn
      exact h hit hhit
    rw [List.length_map] at hsum ⊢
    exact hsum
  nothing := by
    intro hnil
    rw [List.map_eq_nil_iff.mp hnil]
    rfl

/-- **The scan of some lines is charged**, by rules with a penalty. -/
theorem charged_ofLines {rules : List Rule} (h : ∀ r ∈ rules, 0 < r.penalty) (source : List Char)
    (number : Nat) (texts : List (List Char)) : (ofLines rules source number texts).Charged := by
  induction texts generalizing number with
  | nil => exact charged_empty
  | cons text texts ih =>
    have hline : (ofLine rules source number text).Charged :=
      charged_hits (fun r hr => h r (List.mem_filter.mp hr).1) _
    exact hline.append (ih (number + 1))

theorem charged_whole (code : String) : (whole code).Charged := by
  have hchecks : ∀ c ∈ wholeChecks, 0 < c.penalty := by simp [wholeChecks]
  exact charged_hits (fun c hc => hchecks c (List.mem_filter.mp hc).1) _

/-- **A scan costs points exactly for what it finds.** -/
theorem charged_all (code language : String) : (all code language).Charged := by
  have hrules : ∀ r ∈ Catalog.rulesFor language, 0 < r.penalty := fun r => Catalog.penalty_pos
  exact (charged_ofLines hrules _ 1 _).append (charged_whole code)

theorem Charged.penalty_pos_iff {s : Scan} (h : s.Charged) : 0 < s.penalty ↔ s.findings ≠ [] := by
  constructor
  · intro hpos hnil
    rw [h.nothing hnil] at hpos
    exact Nat.lt_irrefl 0 hpos
  · intro hne
    exact Nat.lt_of_lt_of_le (List.length_pos_of_ne_nil hne) h.findings

end Scan

/-! ## 2. What the scan says and what the insights say -/

/-- What the scan finds is said by a rule or by a check of the source as a whole. -/
theorem message_of_mem_scan {code language : String} {f : Finding}
    (hf : f ∈ (Scan.all code language).findings) :
    f.message ∈ scanMessages := by
  rw [Scan.all, Scan.findings_append, List.mem_append] at hf
  rcases hf with hf | hf
  · rw [Scan.lines, findings_ofLines] at hf
    exact List.mem_append_left _ ((messages_rules _ language).subset (message_of_mem_hits hf))
  · obtain ⟨c, hc, rfl⟩ := List.mem_map.mp hf
    exact List.mem_append_right _
      (List.mem_map_of_mem (f := fun c => c.finding.message) (List.mem_filter.mp hc).1)

/-- What the scan finds, no insight says. -/
theorem scan_ne_insight {code language : String} {f g : Finding}
    (hf : f ∈ (Scan.all code language).findings) (hg : g ∈ Insight.all code language) :
    g.message ≠ f.message := by
  have hscan := message_of_mem_scan hf
  rw [Insight.all, List.mem_append, List.mem_append] at hg
  rcases hg with (hg | hg) | hg
  · intro hsame
    rw [← hsame] at hscan
    exact take_ne_complexityHead _ (scanMessages_sublist.subset hscan)
      (head_of_mem_complexityHints hg).1
  · rw [(message_of_mem_documentationHints hg).1]
    exact (scanMessage_ne hscan List.mem_cons_self).symm
  · rw [Insight.performance, hintsFrom_eq] at hg
    have hhint := (messages_hints language).subset (message_of_mem_hits hg)
    exact (scanMessage_ne hscan (List.mem_cons_of_mem _ hhint)).symm

/-- **Where nothing is shown but insights**, the scan has found nothing. -/
theorem findings_scan_eq_nil {code language : String}
    (h : (Report.ofSource code language).findings = shown (Insight.all code language)) :
    (Scan.all code language).findings = [] := by
  have hapart : ∀ f ∈ (Scan.all code language).findings, ∀ g ∈ Insight.all code language,
      g.key ≠ f.key :=
    fun f hf g hg hkey => scan_ne_insight hf hg (congrArg Prod.fst hkey)
  -- what is shown of the scan stands in front of the insights, and nothing stands there
  rw [Report.ofSource, shown_append hapart] at h
  exact eq_nil_of_shown (List.append_left_eq_self.mp h)

/-! ## 3. Points and rewrites -/

theorem Language.isScript_iff {name : String} :
    isScript name = true ↔ name = "javascript" ∨ name = "typescript" := by
  rw [isScript, Bool.or_eq_true, beq_iff_eq, beq_iff_eq]
  rfl

namespace Report

/-- **Points are lost** where the scan finds something, however many they are. -/
theorem score_lt_iff (code language : String) :
    (ofSource code language).score < 85 ↔ (Scan.all code language).findings ≠ [] := by
  rw [← (Scan.charged_all code language).penalty_pos_iff, ofSource, baseline]
  simp only
  omega

/-- **What is offered** for a source in one of the two script languages. -/
theorem rewritten_of_script {language : String} (h : Language.isScript language = true)
    (code : String) :
    (ofSource code language).rewritten =
      if (ofSource code language).score < 85 then some (Rewrite.rewrite code) else none := by
  have hoffers : offersRewrite language (Scan.all code language).findings = true ↔
      (ofSource code language).score < 85 := by
    rw [score_lt_iff, offersRewrite, h, Bool.true_and, Bool.not_eq_true', List.isEmpty_eq_false_iff]
  rw [← if_congr hoffers rfl rfl]
  rfl

/-- No other language is offered a rewrite. -/
theorem rewritten_of_other {language : String} (h : ¬ Language.isScript language = true)
    (code : String) : (ofSource code language).rewritten = none := by
  rw [ofSource, offersRewrite, Bool.eq_false_of_not_eq_true h]
  rfl

/-- **A rewrite is offered exactly when points were lost**, in the two script languages, and it is
the rewrite of the whole source; no other language is offered any.  Where nothing is shown but
insights, in whatever number, no points are lost and nothing is offered. -/
theorem offered_iff_points_lost (code language : String) :
    let name := String.ofList (Text.lower language.toList)
    let report := analyze code language
    (name = "javascript" ∨ name = "typescript" →
      (report.rewritten.isSome ↔ report.score < 85) ∧
        ∀ text, report.rewritten = some text → text = Rewrite.rewrite code) ∧
    (¬ (name = "javascript" ∨ name = "typescript") → report.rewritten = none) ∧
    (report.findings = shown (Insight.all code name) →
      report.score = 85 ∧ report.rewritten = none) := by
  intro name report
  refine ⟨fun hscript => ?_, fun hother => ?_, fun hinsights => ?_⟩
  · have hrewritten : report.rewritten = if report.score < 85 then _ else none :=
      rewritten_of_script (Language.isScript_iff.mpr hscript) code
    by_cases hlost : report.score < 85
    · rw [hrewritten, if_pos hlost]
      exact ⟨iff_of_true rfl hlost, fun text htext => (Option.some_inj.mp htext).symm⟩
    · rw [hrewritten, if_neg hlost]
      exact ⟨iff_of_false Bool.false_ne_true hlost, fun text htext => nomatch htext⟩
  · exact rewritten_of_other (fun hscript => hother (Language.isScript_iff.mp hscript)) code
  · have hkept : ¬ report.score < 85 := fun hlost =>
      (score_lt_iff code name).mp hlost (findings_scan_eq_nil hinsights)
    have hle : report.score ≤ 85 := (score_le code language).2
    refine ⟨by omega, ?_⟩
    by_cases hscript : Language.isScript name = true
    · exact (rewritten_of_script hscript code).trans (if_neg hkept)
    · exact rewritten_of_other hscript code

/-- Points that are lost in a script language and in another one, and three insights that cost
nothing. -/
theorem offered_iff_points_lost_of_three :
    (String.ofList (Text.lower "TypeScript".toList) = "typescript" ∧
      ((analyze "var x = 42;" "TypeScript").rewritten.isSome ↔
        (analyze "var x = 42;" "TypeScript").score < 85)) ∧
    ((analyze "var x = 42;" "Python").score = 80 ∧
      (analyze "var x = 42;" "Python").rewritten = none) ∧
    ((analyze "for (;i < a.length;) document.querySelector(a)" "javascript").findings.length = 3 ∧
      (analyze "for (;i < a.length;) document.querySelector(a)" "javascript").score = 85) :=
  ⟨⟨by decide +kernel, ((offered_iff_points_lost _ _).1 (.inr (by decide +kernel))).1⟩,
    ⟨by decide +kernel, (offered_iff_points_lost _ _).2.1 (by decide +kernel)⟩,
    ⟨by decide +kernel, ((offered_iff_points_lost _ _).2.2 (by decide +kernel)).1⟩⟩

end Report

end Critique
