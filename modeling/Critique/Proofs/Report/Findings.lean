/-
# The findings of a report

A report is made by a scan line by line, by checks of the source as a whole, by insights, and by one
grouping of everything that was found.  The grouping goes by message and does not know where a
finding comes from.  It never mixes the sources all the same: no two rules of the catalog, checks or
hints have one message (`messages_nodup`), and the one message that is made up, the one on
complexity, begins like none of them (`take_ne_complexityHead`).

So the findings come in three blocks, each grouped on its own: the rules of the language, the
remarks on the source as a whole, which are left as they are, and the performance hints.  What is
shown of rules and of hints are the entries of their checks (`LineCheck.shown_hits`).

* `findings_ofSource`: the three blocks of a report;
* `findings_analyze`: the findings of a report, in order.
-/
import Critique.Proofs.Report.LineCheck
import Critique.Report

namespace Critique

open Grouping LineCheck

/-! ## 1. Messages -/

/-- All rules of the catalog: the families, then the general rules. -/
def Catalog.all : List Rule :=
  scriptRules ++ pythonRules ++ javaRules ++ generalRules

/-- The hints of all languages. -/
def Insight.allHints : List Hint :=
  hintsFor Language.javascript.name ++ hintsFor Language.python.name

/-- The messages on the source as a whole that are always the same. -/
def remarks : List String :=
  Scan.wholeChecks.map (·.finding.message) ++
    ["Consider adding documentation comments to improve code maintainability."]

theorem Catalog.rulesFor_sublist (language : String) : (rulesFor language).Sublist all := by
  rw [rulesFor]
  refine List.Sublist.append ?_ (List.Sublist.refl generalRules)
  cases Language.ofName? language with
  | none => exact List.nil_sublist _
  | some l =>
    have hscript : scriptRules.Sublist (scriptRules ++ pythonRules ++ javaRules) := by
      rw [List.append_assoc]
      exact List.sublist_append_left _ _
    have hpython : pythonRules.Sublist (scriptRules ++ pythonRules ++ javaRules) :=
      (List.sublist_append_right _ _).trans (List.sublist_append_left _ _)
    cases l with
    | javascript => exact hscript
    | typescript => exact hscript
    | python => exact hpython
    | java => exact List.sublist_append_right _ _

theorem Insight.hintsFor_sublist (language : String) : (hintsFor language).Sublist allHints := by
  unfold hintsFor
  split
  · exact List.sublist_append_left _ _
  · split
    · exact List.sublist_append_right (hintsFor Language.javascript.name) _
    · exact List.nil_sublist _

/-- All messages that are always the same: of rules, remarks and hints. -/
def messages : List String :=
  Catalog.all.map (·.message) ++ (remarks ++ Insight.allHints.map (·.message))

/-- **No message is used twice.** -/
theorem messages_nodup : messages.Nodup := by
  simp [messages, Catalog.all, Catalog.scriptRules, Catalog.pythonRules, Catalog.javaRules,
    Catalog.generalRules, remarks, Scan.wholeChecks, Insight.allHints, Insight.hintsFor,
    Language.isScript, Language.name]

/-- The messages of the scan: of all rules, and of the checks of the source as a whole. -/
def scanMessages : List String :=
  Catalog.all.map (·.message) ++ Scan.wholeChecks.map (·.finding.message)

theorem messages_eq : messages = scanMessages ++
    ("Consider adding documentation comments to improve code maintainability." ::
      Insight.allHints.map (·.message)) := by
  simp [messages, remarks, scanMessages]

theorem scanMessages_sublist : scanMessages.Sublist messages := by
  rw [messages_eq]
  exact List.sublist_append_left _ _

/-- What the scan says, neither the remark on documentation nor a hint does. -/
theorem scanMessage_ne {m m' : String} (hm : m ∈ scanMessages)
    (hm' : m' ∈ "Consider adding documentation comments to improve code maintainability." ::
      Insight.allHints.map (·.message)) : m ≠ m' := by
  have hnodup := messages_nodup
  rw [messages_eq] at hnodup
  exact (List.nodup_append.mp hnodup).2.2 _ hm _ hm'

/-- What the message on complexity begins with. -/
def complexityHead : List Char := ['C', 'o', 'd', 'e', ' ']

/-- The message on complexity begins like no other one. -/
theorem take_ne_complexityHead : ∀ m ∈ messages, m.toList.take 5 ≠ complexityHead := by
  have ofList : ∀ l : List Char, l.take 5 ≠ complexityHead →
      (String.ofList l).toList.take 5 ≠ complexityHead := by
    intro l h
    rwa [String.toList_ofList]
  simp only [messages, Catalog.all, Catalog.scriptRules, Catalog.pythonRules, Catalog.javaRules,
    Catalog.generalRules, remarks, Scan.wholeChecks, Insight.allHints, Insight.hintsFor,
    Language.isScript, Language.name, String.reduceBEq, Bool.or_false, if_true,
    Bool.false_eq_true, if_false, List.map_append, List.map_cons, List.map_nil,
    List.forall_mem_append, List.forall_mem_cons, List.not_mem_nil, false_imp_iff, implies_true,
    and_true]
  and_intros <;> exact ofList _ (by decide)

/-- The remark on complexity is made once or not at all, and on line 0. -/
theorem complexityHints_cases (code : String) :
    Insight.complexityHints code = [] ∨ ∃ f, Insight.complexityHints code = [f] ∧
      f.message.toList.take 5 = complexityHead ∧ f.line = 0 := by
  unfold Insight.complexityHints
  simp only
  split
  · have hhead : "Code complexity is high (".toList =
        complexityHead ++ "complexity is high (".toList := rfl
    refine .inr ⟨_, rfl, ?_, rfl⟩
    rw [String.append_assoc, String.toList_append, hhead]
    rfl
  · exact .inl rfl

/-- The remark on documentation is made once or not at all, and on line 0. -/
theorem documentationHints_cases (code language : String) :
    Insight.documentationHints code language = [] ∨
      ∃ f, Insight.documentationHints code language = [f] ∧
        f.message = "Consider adding documentation comments to improve code maintainability." ∧
        f.line = 0 := by
  unfold Insight.documentationHints
  split
  · exact .inl rfl
  · exact .inr ⟨_, rfl, rfl, rfl⟩

theorem head_of_mem_complexityHints {code : String} {f : Finding}
    (hf : f ∈ Insight.complexityHints code) :
    f.message.toList.take 5 = complexityHead ∧ f.line = 0 := by
  rcases complexityHints_cases code with hnil | ⟨g, hg, hhead, hline⟩
  · exact absurd (hnil ▸ hf) List.not_mem_nil
  · rw [hg, List.mem_singleton] at hf
    exact hf ▸ ⟨hhead, hline⟩

theorem message_of_mem_documentationHints {code language : String} {f : Finding}
    (hf : f ∈ Insight.documentationHints code language) :
    f.message = "Consider adding documentation comments to improve code maintainability." ∧
      f.line = 0 := by
  rcases documentationHints_cases code language with hnil | ⟨g, hg, hmessage, hline⟩
  · exact absurd (hnil ▸ hf) List.not_mem_nil
  · rw [hg, List.mem_singleton] at hf
    exact hf ▸ ⟨hmessage, hline⟩

/-! ## 2. The three blocks -/

/-- A rule as a check of the lines of a source. -/
def Rule.check (source : List Char) (r : Rule) : LineCheck :=
  ⟨fun number text => r.fires ⟨text, number, source⟩, r.finding 0⟩

/-- A hint as a check of lines. -/
def Insight.Hint.check (h : Insight.Hint) : LineCheck :=
  ⟨fun _ text => h.fires text, ⟨.optimization, h.severity, 0, h.message, "Performance"⟩⟩

theorem findings_ofLines (rules : List Rule) (source : List Char) (number : Nat)
    (texts : List (List Char)) :
    (Scan.ofLines rules source number texts).findings =
      hitsFrom (rules.map (Rule.check source)) number texts := by
  induction texts generalizing number with
  | nil => rfl
  | cons text texts ih =>
    rw [Scan.ofLines, Scan.findings_append, ih, hitsFrom_cons, List.filter_map, List.map_map]
    rfl

theorem hintsFrom_eq (hints : List Insight.Hint) (number : Nat) (texts : List (List Char)) :
    Insight.hintsFrom hints number texts =
      hitsFrom (hints.map Insight.Hint.check) number texts := by
  induction texts generalizing number with
  | nil => rfl
  | cons text texts ih =>
    rw [Insight.hintsFrom, ih, hitsFrom_cons, List.filter_map, List.map_map]
    rfl

/-- The remarks on a source as a whole: the checks of the whole that fire, then complexity and
documentation. -/
def remarksOn (code language : String) : List Finding :=
  (Scan.wholeChecks.filter fun c => c.fires code.toList).map (·.finding) ++
    (Insight.complexityHints code ++ Insight.documentationHints code language)

/-- What is shown of checks of the lines of a source. -/
def entries (code : String) (checks : List LineCheck) : List Finding :=
  let lines := fun c : LineCheck => c.linesFrom 1 (Text.splitLines code.toList)
  (ranked lines checks).map fun c => c.entry (lines c)

theorem message_of_mem_hits {checks : List LineCheck} {number : Nat} {texts : List (List Char)}
    {f : Finding} (h : f ∈ hitsFrom checks number texts) :
    f.message ∈ checks.map fun c => c.template.message := by
  obtain ⟨-, c, hc, hf⟩ := mem_hits h
  rw [hf]
  exact List.mem_map_of_mem (f := fun c => c.template.message) hc

/-- Checks without a common message have no common key. -/
theorem nodup_keys {checks : List LineCheck}
    (h : (checks.map fun c => c.template.message).Nodup) :
    (checks.map fun c => c.template.key).Nodup := by
  refine List.Nodup.of_map Prod.fst ?_
  rwa [List.map_map]

theorem messages_rules (source : List Char) (language : String) :
    (((Catalog.rulesFor language).map (Rule.check source)).map fun c => c.template.message).Sublist
      (Catalog.all.map (·.message)) := by
  rw [List.map_map]
  exact (Catalog.rulesFor_sublist language).map _

theorem messages_hints (language : String) :
    (((Insight.hintsFor language).map Insight.Hint.check).map
      fun c => c.template.message).Sublist (Insight.allHints.map (·.message)) := by
  rw [List.map_map]
  exact (Insight.hintsFor_sublist language).map _

/-- A remark says one of the texts that are always the same, or it is the one on complexity. -/
theorem remark_cases {code language : String} {f : Finding} (hf : f ∈ remarksOn code language) :
    f.message ∈ remarks ∨ f ∈ Insight.complexityHints code := by
  rw [remarksOn, List.mem_append, List.mem_append] at hf
  rcases hf with hf | hf | hf
  · obtain ⟨c, hc, rfl⟩ := List.mem_map.mp hf
    exact .inl (List.mem_append_left _
      (List.mem_map_of_mem (f := fun c => c.finding.message) (List.mem_filter.mp hc).1))
  · exact .inr hf
  · rw [(message_of_mem_documentationHints hf).1]
    exact .inl (List.mem_append_right _ (List.mem_singleton.mpr rfl))

/-- All remarks stand on line 0. -/
theorem line_remarksOn {code language : String} {f : Finding} (hf : f ∈ remarksOn code language) :
    f.line = 0 := by
  have hwhole : ∀ c ∈ Scan.wholeChecks, c.finding.line = 0 := by simp [Scan.wholeChecks]
  rw [remarksOn, List.mem_append, List.mem_append] at hf
  rcases hf with hf | hf | hf
  · obtain ⟨c, hc, rfl⟩ := List.mem_map.mp hf
    exact hwhole c (List.mem_filter.mp hc).1
  · exact (head_of_mem_complexityHints hf).2
  · exact (message_of_mem_documentationHints hf).2

/-- A remark says what no other message says. -/
theorem remark_ne {code language : String} {f : Finding} (hf : f ∈ remarksOn code language)
    {m : String} (hm : m ∈ messages) (other : m ∉ remarks) : f.message ≠ m := by
  rintro rfl
  rcases remark_cases hf with hremark | hcomplexity
  · exact other hremark
  · exact take_ne_complexityHead _ hm (head_of_mem_complexityHints hcomplexity).1

/-- A remark says what no rule says. -/
theorem remark_ne_rule {code language : String} {f : Finding} (hf : f ∈ remarksOn code language)
    {m : String} (hm : m ∈ Catalog.all.map (·.message)) : f.message ≠ m := by
  obtain ⟨-, -, hdisjoint⟩ := List.nodup_append.mp messages_nodup
  refine remark_ne hf (List.mem_append_left _ hm) fun hremark => ?_
  exact hdisjoint _ hm _ (List.mem_append_left _ hremark) rfl

/-- A remark says what no hint says. -/
theorem remark_ne_hint {code language : String} {f : Finding} (hf : f ∈ remarksOn code language)
    {m : String} (hm : m ∈ Insight.allHints.map (·.message)) : f.message ≠ m := by
  obtain ⟨-, hrest, -⟩ := List.nodup_append.mp messages_nodup
  obtain ⟨-, -, hdisjoint⟩ := List.nodup_append.mp hrest
  refine remark_ne hf (List.mem_append_right _ (List.mem_append_right _ hm)) fun hremark => ?_
  exact hdisjoint _ hremark _ hm rfl

/-- A rule says what no hint says. -/
theorem rule_ne_hint {m m' : String} (hm : m ∈ Catalog.all.map (·.message))
    (hm' : m' ∈ Insight.allHints.map (·.message)) : m ≠ m' :=
  scanMessage_ne (List.mem_append_left _ hm) (List.mem_cons_of_mem _ hm')

/-- No remark is made twice. -/
theorem nodup_messages_remarksOn (code language : String) :
    ((remarksOn code language).map (·.message)).Nodup := by
  have hwhole : (((Scan.wholeChecks.filter fun c => c.fires code.toList).map (·.finding)).map
      (·.message)).Sublist (Scan.wholeChecks.map (·.finding.message)) := by
    rw [List.map_map]
    exact List.filter_sublist.map _
  have hdocumentation : ((Insight.documentationHints code language).map (·.message)).Sublist
      ["Consider adding documentation comments to improve code maintainability."] := by
    rcases documentationHints_cases code language with hnil | ⟨f, hf, hmessage, -⟩
    · rw [hnil]
      exact List.nil_sublist _
    · rw [hf, List.map_singleton, hmessage]
  have hsublist := hwhole.append hdocumentation
  have hnodup := hsublist.nodup
    (List.nodup_append.mp (List.nodup_append.mp messages_nodup).2.1).1
  rw [remarksOn, List.map_append, List.map_append]
  -- the remark on complexity, if it is made, stands between the others
  rcases complexityHints_cases code with hnil | ⟨f, hf, hhead, -⟩
  · rw [hnil]
    exact hnodup
  · rw [hf]
    refine List.nodup_middle.mpr (List.nodup_cons.mpr ⟨fun hmem => ?_, hnodup⟩)
    have hremark : f.message ∈ messages :=
      List.mem_append_right _ (List.mem_append_left _ (hsublist.subset hmem))
    exact take_ne_complexityHead _ hremark hhead

theorem nodup_remarksOn (code language : String) :
    ((remarksOn code language).map Finding.key).Nodup := by
  refine List.Nodup.of_map Prod.fst ?_
  rw [List.map_map]
  exact nodup_messages_remarksOn code language

/-- What a report is made of: what is found on lines by the rules, the remarks, and the hints. -/
theorem found_eq (code language : String) :
    (Scan.all code language).findings ++ Insight.all code language =
      hitsFrom ((Catalog.rulesFor language).map (Rule.check code.toList)) 1
          (Text.splitLines code.toList) ++
        (remarksOn code language ++
          hitsFrom ((Insight.hintsFor language).map Insight.Hint.check) 1
            (Text.splitLines code.toList)) := by
  rw [Scan.all, Scan.findings_append, Scan.lines, findings_ofLines, Scan.whole, Insight.all,
    Insight.performance, hintsFrom_eq, remarksOn]
  simp only [List.append_assoc]

/-- **The three blocks of a report**: the rules of the language, the remarks, and the hints. -/
theorem findings_ofSource (code language : String) :
    (Report.ofSource code language).findings =
      entries code ((Catalog.rulesFor language).map (Rule.check code.toList)) ++
        (remarksOn code language ++
          entries code ((Insight.hintsFor language).map Insight.Hint.check)) := by
  obtain ⟨hrules, hrest, -⟩ := List.nodup_append.mp messages_nodup
  obtain ⟨-, hhints, -⟩ := List.nodup_append.mp hrest
  have hrule : ∀ f ∈ hitsFrom ((Catalog.rulesFor language).map (Rule.check code.toList)) 1
      (Text.splitLines code.toList), f.message ∈ Catalog.all.map (·.message) :=
    fun f hf => (messages_rules _ language).subset (message_of_mem_hits hf)
  have hhint : ∀ f ∈ hitsFrom ((Insight.hintsFor language).map Insight.Hint.check) 1
      (Text.splitLines code.toList), f.message ∈ Insight.allHints.map (·.message) :=
    fun f hf => (messages_hints language).subset (message_of_mem_hits hf)
  have hkey : ∀ {f g : Finding}, g.message ≠ f.message → g.key ≠ f.key :=
    fun hne he => hne (congrArg Prod.fst he)
  rw [Report.ofSource, found_eq, shown_append, shown_append, shown_eq_self (nodup_remarksOn _ _),
    shown_hits (nodup_keys ((messages_rules _ language).nodup hrules)),
    shown_hits (nodup_keys ((messages_hints language).nodup hhints))]
  · rfl
  · intro f hf g hg
    exact hkey (remark_ne_hint hf (hhint g hg)).symm
  · intro f hf g hg
    rcases List.mem_append.mp hg with hg | hg
    · exact hkey (remark_ne_rule hg (hrule f hf))
    · exact hkey (rule_ne_hint (hrule f hf) (hhint g hg)).symm

/-- **The findings of a report, in order.**  First come the rules of the language that fire
somewhere: one entry each, by the first line on which a rule fires, and by its place in the catalog
where that is one line.  Then come the checks of the source as a whole that fire, the remarks on
complexity and on documentation, all of them on line 0, and last the hints, ordered like the
rules. -/
theorem findings_analyze (code language : String) :
    let name := String.ofList (Text.lower language.toList)
    (Report.analyze code language).findings =
        entries code ((Catalog.rulesFor name).map (Rule.check code.toList)) ++
          ((Scan.wholeChecks.filter fun c => c.fires code.toList).map (·.finding) ++
            (Insight.complexityHints code ++ Insight.documentationHints code name)) ++
          entries code ((Insight.hintsFor name).map Insight.Hint.check) ∧
      ∀ f ∈ (Scan.wholeChecks.filter fun c => c.fires code.toList).map (·.finding) ++
        (Insight.complexityHints code ++ Insight.documentationHints code name), f.line = 0 := by
  intro name
  constructor
  · rw [List.append_assoc]
    exact findings_ofSource code name
  · exact fun f hf => line_remarksOn hf

end Critique
