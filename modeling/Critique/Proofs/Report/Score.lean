/-
# The score is explained by what is shown

Points are counted while the source is scanned, before anything is grouped; what is shown are the
groups.  Nothing is lost on the way: the message of an entry, without its note, is the message of one
rule or check and so has one price (`price`), and the note says how many lines the entry stands for
(`splitNote`).  Adding these up gives back the points of the scan.

Both sides are sums over the lines on which rules fire, taken in two orders: the scan goes line by
line, and what is shown goes rule by rule (`penalty_ofLines`).

* `cost_entry`: what the entry of a check costs;
* `penalty_ofLines`: the points of a scan, rule by rule;
* `score_explained`: the score of a report is what its findings leave of the baseline.
-/
import Critique.Proofs.Report.Note
import Critique.Entries
import Mathlib.Algebra.BigOperators.Group.List.Basic

namespace Critique

open Grouping LineCheck

/-! ## 1. Prices -/

/-- The messages that cost points: of all rules of the catalog, and of the checks of the whole. -/
def prices : List (String × Nat) :=
  Catalog.all.map (fun r => (r.message, r.penalty)) ++
    Scan.wholeChecks.map fun c => (c.finding.message, c.penalty)

/-- What a message costs; a message that no rule and no check has costs nothing. -/
def price (message : String) : Nat :=
  (Entries.find? message prices).getD 0

/-- What a finding that is shown costs: the price of its message without the note, for each of the
lines that it stands for. -/
def cost (f : Finding) : Nat :=
  match splitNote f.message.toList with
  | some (front, count) => price (String.ofList front) * count
  | none => price f.message

theorem names_prices : prices.map Prod.fst = scanMessages := by
  simp [prices, scanMessages, Function.comp_def]

theorem names_prices_sublist : (prices.map Prod.fst).Sublist messages := by
  rw [names_prices]
  exact scanMessages_sublist

/-- A message has one price. -/
theorem price_of_mem {message : String} {points : Nat} (h : (message, points) ∈ prices) :
    price message = points := by
  rw [price, Entries.find?_of_mem (names_prices_sublist.nodup messages_nodup) h]
  rfl

theorem price_of_notMem {message : String} (h : message ∉ prices.map Prod.fst) :
    price message = 0 := by
  rw [price, Entries.find?_of_notMem h]
  rfl

theorem price_rule {r : Rule} (h : r ∈ Catalog.all) : price r.message = r.penalty :=
  price_of_mem (List.mem_append_left _ (List.mem_map_of_mem (f := fun r => (r.message, r.penalty)) h))

theorem price_hint {m : String} (h : m ∈ Insight.allHints.map (·.message)) : price m = 0 := by
  refine price_of_notMem fun hmem => ?_
  rw [names_prices] at hmem
  exact scanMessage_ne hmem (List.mem_cons_of_mem _ h) rfl

/-! ## 2. Entries -/

/-- **What the entry of a check costs**: the price of its message for each of its lines. -/
theorem cost_entry {c : LineCheck} (h : c.template.message ∈ messages) {lines : List Nat}
    (hlines : lines ≠ []) : cost (c.entry lines) = price c.template.message * lines.length := by
  have hsplit := splitNote_entry h lines
  rcases Nat.lt_or_ge lines.length 2 with hone | hmany
  · have hlength : lines.length = 1 := by
      have := List.length_pos_of_ne_nil hlines
      omega
    rw [if_pos hone] at hsplit
    rw [cost, hsplit, hlength, Nat.mul_one]
    exact congrArg price (message_entry_of_lt hone)
  · rw [if_neg (Nat.not_lt.mpr hmany)] at hsplit
    rw [cost, hsplit]
    simp only [String.ofList_toList]

theorem cost_message {f : Finding} (h : f.message ∈ messages) : cost f = price f.message := by
  rw [cost, splitNote_message _ h]

/-- Summands that are left out where they are zero do not matter. -/
theorem sum_filter {α : Type} {p : α → Bool} {f : α → Nat} (xs : List α)
    (h : ∀ x ∈ xs, p x = false → f x = 0) : ((xs.filter p).map f).sum = (xs.map f).sum := by
  have hrest : ((xs.filter fun x => ¬ p x = true).map f).sum = 0 := by
    refine List.sum_eq_zero fun n hn => ?_
    obtain ⟨x, hx, rfl⟩ := List.mem_map.mp hn
    obtain ⟨hx, hp⟩ := List.mem_filter.mp hx
    exact h x hx (by simpa using hp)
  have hsplit := List.sum_map_filter_add_sum_map_filter_not (fun x => p x = true) f xs
  rw [hrest, Nat.add_zero] at hsplit
  simpa using hsplit

/-- What is shown of checks costs the price of each check for each of its lines. -/
theorem cost_entries {checks : List LineCheck}
    (h : ∀ c ∈ checks, c.template.message ∈ messages) (code : String) :
    ((entries code checks).map cost).sum =
      (checks.map fun c => price c.template.message *
        (c.linesFrom 1 (Text.splitLines code.toList)).length).sum := by
  generalize hlines : (fun c : LineCheck => c.linesFrom 1 (Text.splitLines code.toList)) = lines
  have hcost : ∀ c ∈ ranked lines checks,
      cost (c.entry (lines c)) = price c.template.message * (lines c).length := by
    intro c hc
    obtain ⟨hc, hne⟩ := mem_ranked.mp hc
    exact cost_entry (h c hc) hne
  have hzero : ∀ c ∈ checks, decide (lines c ≠ []) = false →
      price c.template.message * (lines c).length = 0 := by
    intro c _ hempty
    have hnil : lines c = [] := by simpa using hempty
    rw [hnil, List.length_nil, Nat.mul_zero]
  calc ((entries code checks).map cost).sum
      = ((ranked lines checks).map fun c => cost (c.entry (lines c))).sum := by
        rw [← hlines, entries, List.map_map]
        rfl
    _ = ((ranked lines checks).map fun c => price c.template.message * (lines c).length).sum := by
        rw [List.map_congr_left hcost]
    _ = ((checks.filter fun c => lines c ≠ []).map fun c =>
          price c.template.message * (lines c).length).sum :=
        ((ranked_perm lines checks).map _).sum_eq
    _ = (checks.map fun c => price c.template.message * (lines c).length).sum :=
        sum_filter checks hzero
    _ = _ := by rw [← hlines]

/-! ## 3. The scan, rule by rule -/

/-- **The points of a scan, rule by rule**: the penalty of each rule for each line on which it
fires. -/
theorem penalty_ofLines (rules : List Rule) (source : List Char) (number : Nat)
    (texts : List (List Char)) :
    (Scan.ofLines rules source number texts).penalty =
      (rules.map fun r => r.penalty * ((r.check source).linesFrom number texts).length).sum := by
  induction texts generalizing number with
  | nil =>
    have hzero : ∀ r ∈ rules, r.penalty * ((r.check source).linesFrom number []).length = 0 :=
      fun r _ => Nat.mul_zero r.penalty
    rw [List.map_congr_left hzero, List.map_const', List.sum_replicate]
    rfl
  | cons text texts ih =>
    have hline : (Scan.ofLine rules source number text).penalty =
        (rules.map fun r => if r.fires ⟨text, number, source⟩ then r.penalty else 0).sum := by
      have hzero : ∀ r ∈ rules, r.fires ⟨text, number, source⟩ = false →
          (if r.fires ⟨text, number, source⟩ then r.penalty else 0) = 0 := by
        intro r _ hr
        rw [if_neg (by simp [hr])]
      rw [← sum_filter rules hzero]
      refine congrArg List.sum (List.map_congr_left fun r hr => ?_)
      rw [if_pos (List.mem_filter.mp hr).2]
    rw [Scan.ofLines, Scan.penalty_append, ih, hline, ← List.sum_map_add]
    refine congrArg List.sum (List.map_congr_left fun r _ => ?_)
    rw [linesFrom_cons, List.length_append, Nat.mul_add]
    congr 1
    show _ = r.penalty * (if r.fires ⟨text, number, source⟩ then [number] else []).length
    split <;> simp

/-! ## 4. The score -/

/-- What is left of the baseline by findings that are shown. -/
def scoreOf (findings : List Finding) : Int :=
  max 0 (85 - ((findings.map cost).sum : Nat))

/-- The remark on complexity costs nothing. -/
theorem cost_complexityHints {code : String} {f : Finding}
    (hf : f ∈ Insight.complexityHints code) : cost f = 0 := by
  have hhead := (head_of_mem_complexityHints hf).1
  rw [cost, splitNote_complexityHints hf]
  exact price_of_notMem fun hmem => take_ne_complexityHead _ (names_prices_sublist.subset hmem) hhead

/-- The remark on documentation costs nothing. -/
theorem cost_documentationHints {code language : String} {f : Finding}
    (hf : f ∈ Insight.documentationHints code language) : cost f = 0 := by
  have hmessage := (message_of_mem_documentationHints hf).1
  have hremark : f.message ∈ remarks :=
    List.mem_append_right _ (List.mem_singleton.mpr hmessage)
  rw [cost_message (List.mem_append_right _ (List.mem_append_left _ hremark))]
  refine price_of_notMem fun hmem => ?_
  rw [names_prices] at hmem
  exact scanMessage_ne hmem List.mem_cons_self hmessage

/-- The remarks cost what the checks of the whole source do. -/
theorem cost_remarksOn (code language : String) :
    ((remarksOn code language).map cost).sum = (Scan.whole code).penalty := by
  have hwhole : ∀ c ∈ Scan.wholeChecks.filter fun c => c.fires code.toList,
      cost c.finding = c.penalty := by
    intro c hc
    have hmem : (c.finding.message, c.penalty) ∈ prices := List.mem_append_right _
      (List.mem_map_of_mem (f := fun c => (c.finding.message, c.penalty)) (List.mem_filter.mp hc).1)
    rw [cost_message (names_prices_sublist.subset (List.mem_map_of_mem (f := Prod.fst) hmem))]
    exact price_of_mem hmem
  have hcomplexity : ((Insight.complexityHints code).map cost).sum = 0 := by
    rw [List.sum_eq_zero]
    intro n hn
    obtain ⟨f, hf, rfl⟩ := List.mem_map.mp hn
    exact cost_complexityHints hf
  have hdocumentation : ((Insight.documentationHints code language).map cost).sum = 0 := by
    rw [List.sum_eq_zero]
    intro n hn
    obtain ⟨f, hf, rfl⟩ := List.mem_map.mp hn
    exact cost_documentationHints hf
  rw [remarksOn, List.map_append, List.map_append, List.sum_append, List.sum_append, hcomplexity,
    hdocumentation, List.map_map, Scan.whole]
  exact congrArg List.sum (List.map_congr_left hwhole)

/-- The points of a scan are what the findings cost that are shown. -/
theorem penalty_all (code language : String) :
    (Scan.all code language).penalty =
      ((Report.ofSource code language).findings.map cost).sum := by
  have hrules : ((entries code ((Catalog.rulesFor language).map (Rule.check code.toList))).map
      cost).sum = (Scan.lines code language).penalty := by
    rw [cost_entries, Scan.lines, penalty_ofLines, List.map_map]
    · refine congrArg List.sum (List.map_congr_left fun r hr => ?_)
      have hprice := price_rule ((Catalog.rulesFor_sublist language).subset hr)
      show price r.message * _ = _
      rw [hprice]
    · intro c hc
      obtain ⟨r, hr, rfl⟩ := List.mem_map.mp hc
      exact List.mem_append_left _ (List.mem_map_of_mem ((Catalog.rulesFor_sublist language).subset hr))
  have hhints : ((entries code ((Insight.hintsFor language).map Insight.Hint.check)).map
      cost).sum = 0 := by
    have hmem : ∀ h ∈ Insight.hintsFor language, h.message ∈ Insight.allHints.map (·.message) :=
      fun h hh => List.mem_map_of_mem ((Insight.hintsFor_sublist language).subset hh)
    rw [cost_entries, List.map_map, List.sum_eq_zero]
    · intro n hn
      obtain ⟨h, hh, rfl⟩ := List.mem_map.mp hn
      show price h.message * _ = 0
      rw [price_hint (hmem h hh), Nat.zero_mul]
    · intro c hc
      obtain ⟨h, hh, rfl⟩ := List.mem_map.mp hc
      exact List.mem_append_right _ (List.mem_append_right _ (hmem h hh))
  rw [findings_ofSource, List.map_append, List.map_append, List.sum_append, List.sum_append, hrules,
    hhints, cost_remarksOn, Scan.all, Scan.penalty_append, Nat.add_zero]

/-- **The score of a report is what its findings leave of the baseline.** -/
theorem score_ofSource (code language : String) :
    (Report.ofSource code language).score =
      scoreOf (Report.ofSource code language).findings := by
  rw [scoreOf, ← penalty_all, Report.ofSource, Report.baseline]
  simp only
  omega

/-- **The score is explained by the findings that are shown**: it is what their prices, each taken
for all the lines that a finding stands for, leave of 85, so that reports with the same findings
have the same score, and it is never outside the range from 0 to 85. -/
theorem score_explained :
    (∀ code language, (Report.analyze code language).score =
      max (0 : Int) (85 - (((Report.analyze code language).findings.map cost).sum : Nat))) ∧
    (∀ code language code' language',
      (Report.analyze code language).findings = (Report.analyze code' language').findings →
        (Report.analyze code language).score = (Report.analyze code' language').score) ∧
    ∀ code language, 0 ≤ (Report.analyze code language).score ∧
      (Report.analyze code language).score ≤ 85 := by
  refine ⟨fun code language => score_ofSource code _, ?_, Report.score_le⟩
  intro code language code' language' hfindings
  unfold Report.analyze at hfindings ⊢
  rw [score_ofSource, score_ofSource, hfindings]

/-- Two sources that are told apart neither by their findings nor by their scores. -/
theorem score_explained_of_two :
    (Report.analyze "var a = 42" "javascript").score =
      (Report.analyze "var c = 52" "TypeScript").score :=
  score_explained.2.1 _ _ _ _ (by decide +kernel)

end Critique
