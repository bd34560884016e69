/-
# One source behind another

Two sources with a line feed between them are one source, whose lines are those of the first and
then those of the second.  A rule that looks at nothing but its line finds there what it has found
before, only so many lines further down.  All rules are of this kind but four: three of them ask
whether some piece stands anywhere in the source, and one asks for the number of the line.  None of
the pieces has a line feed in it, so a piece of the whole is a piece of one of the two parts
(`has_joined`).

A scan hands over findings, which do not name their rules, and one sum of points.  Its hits, rules
that have fired with the lines on which they have, are what both are made of (`lines_eq_ofHits`); to
tell the rules apart is to tell the hits apart.

* `splitLines_joined` and `has_joined`: lines and pieces of two texts, one behind the other;
* `hits_local`: a rule that looks at its line only finds in the whole what it finds in the parts;
* `numbersOf_eq`: the lines on which the rule of a name fires;
* `lines_joined`: the scan of one source behind another.
-/
import Critique.Proofs.Report.Findings
import Critique.Proofs.Text.Places
import Mathlib.Algebra.GroupWithZero.Nat

namespace Critique

open Catalog Text

/-! ## 1. Texts -/

namespace Text

/-- **The lines of two texts**, one behind the other. -/
theorem splitLines_joined (s t : List Char) :
    splitLines (s ++ '\n' :: t) = splitLines s ++ splitLines t := by
  induction s using lines_induction with
  | last line hline => rw [splitLines_append hline, splitLines_of_notMem hline, List.singleton_append]
  | line line rest hline ih =>
    rw [List.append_assoc, List.cons_append, splitLines_append hline, ih, splitLines_append hline,
      List.cons_append]

/-- **A piece of two texts with a line feed between them** is a piece of one of them, if it has no
line feed in it. -/
theorem has_joined {piece : String} (h : '\n' ∉ piece.toList) (s t : List Char) :
    has (s ++ '\n' :: t) piece = (has s piece || has t piece) := by
  have hbegins : ∀ front : List Char, piece.toList.isPrefixOf (front ++ '\n' :: t) =
      piece.toList.isPrefixOf front := by
    intro front
    rw [Bool.eq_iff_iff, List.isPrefixOf_iff_prefix, List.isPrefixOf_iff_prefix]
    constructor
    · exact prefix_of_prefix_append_cons h front
    · exact fun hfront => hfront.trans (List.prefix_append front _)
  simp only [has]
  induction s with
  | nil =>
    have hnil : piece.toList.isPrefixOf [] = occurs piece.toList [] := by
      cases piece.toList <;> rfl
    rw [← hnil, ← hbegins []]
    rfl
  | cons c s ih =>
    rw [List.cons_append, occurs, ih, ← List.cons_append, hbegins, occurs, Bool.or_assoc]

/-- The numbers of the lines of a text on which something holds; the first line has the number
`number`. -/
def numbersFrom (p : Nat → List Char → Bool) (number : Nat) (texts : List (List Char)) : List Nat :=
  ((texts.zipIdx number).filter fun line => p line.2 line.1).map Prod.snd

/-- The numbers of the lines of a text on which something holds, from one on. -/
def numbersWhere (p : Nat → List Char → Bool) (s : List Char) : List Nat :=
  numbersFrom p 1 (splitLines s)

theorem numbersFrom_cons (p : Nat → List Char → Bool) (number : Nat) (text : List Char)
    (texts : List (List Char)) :
    numbersFrom p number (text :: texts) =
      (if p number text then [number] else []) ++ numbersFrom p (number + 1) texts := by
  rw [numbersFrom, List.zipIdx_cons, List.filter_cons]
  split <;> rfl

end Text

/-! ## 2. Hits -/

/-- A rule that has fired, and the number of the line on which it has. -/
structure Hit where
  rule : Rule
  number : Nat

/-- What a hit adds to the findings. -/
def Hit.finding (h : Hit) : Finding :=
  h.rule.finding h.number

/-- The same finding, so many lines further down. -/
def Finding.down (n : Nat) (f : Finding) : Finding :=
  { f with line := f.line + n }

/-- The same hit, so many lines further down. -/
def Hit.down (n : Nat) (h : Hit) : Hit :=
  { h with number := h.number + n }

namespace Scan

/-- What hits find, and the points that they cost. -/
def ofHits (hits : List Hit) : Scan :=
  ⟨hits.map Hit.finding, (hits.map (·.rule.penalty)).sum⟩

/-- The same scan, so many lines further down. -/
def down (n : Nat) (s : Scan) : Scan :=
  { s with findings := s.findings.map (Finding.down n) }

/-- The hits on some lines, the first of which has the number `number`. -/
def hitsFrom (rules : List Rule) (source : List Char) : Nat → List (List Char) → List Hit
  | _, [] => []
  | number, text :: rest =>
    (rules.filter fun r => r.fires ⟨text, number, source⟩).map (Hit.mk · number)
      ++ hitsFrom rules source (number + 1) rest

/-- The hits in a source by the rules of a language. -/
def hits (code language : String) : List Hit :=
  hitsFrom (rulesFor language) code.toList 1 (splitLines code.toList)

/-- The numbers of the lines on which the rule of a name fires. -/
def numbersOf (name code language : String) : List Nat :=
  ((hits code language).filter (·.rule.name == name)).map Hit.number

variable {rules : List Rule} {source : List Char}

theorem ofHits_append (hits more : List Hit) :
    ofHits (hits ++ more) = (ofHits hits).append (ofHits more) := by
  simp [ofHits, append]

theorem ofHits_down (n : Nat) (hits : List Hit) :
    ofHits (hits.map (Hit.down n)) = (ofHits hits).down n := by
  simp only [ofHits, down, List.map_map]
  rfl

theorem ofLines_eq_ofHits (rules : List Rule) (source : List Char) (number : Nat)
    (texts : List (List Char)) :
    ofLines rules source number texts = ofHits (hitsFrom rules source number texts) := by
  induction texts generalizing number with
  | nil => rfl
  | cons text texts ih =>
    rw [ofLines, hitsFrom, ofHits_append, ih]
    congr 1
    simp only [ofLine, ofHits, List.map_map]
    rfl

/-- **What a scan finds and what it costs are its hits.** -/
theorem lines_eq_ofHits (code language : String) :
    lines code language = ofHits (hits code language) :=
  ofLines_eq_ofHits _ _ _ _

theorem hitsFrom_append (number : Nat) (texts more : List (List Char)) :
    hitsFrom rules source number (texts ++ more) =
      hitsFrom rules source number texts ++ hitsFrom rules source (number + texts.length) more := by
  induction texts generalizing number with
  | nil => rfl
  | cons text texts ih =>
    rw [List.cons_append, hitsFrom, hitsFrom, ih, List.append_assoc, List.length_cons,
      Nat.add_assoc, Nat.add_comm 1]

/-- The hits of some rules are the hits that there are with these rules only. -/
theorem filter_hitsFrom (p : Rule → Bool) (number : Nat) (texts : List (List Char)) :
    (hitsFrom rules source number texts).filter (fun h => p h.rule) =
      hitsFrom (rules.filter p) source number texts := by
  induction texts generalizing number with
  | nil => rfl
  | cons text texts ih =>
    rw [hitsFrom, hitsFrom, List.filter_append, ih, List.filter_map, List.filter_filter,
      List.filter_filter]
    congr 3
    funext r
    exact Bool.and_comm _ _

/-- Of rules with different names, one at most has a name and fires. -/
theorem map_filter_named {α : Type} (distinct : (rules.map (·.name)).Nodup) (name : String)
    (fires : Rule → Bool) (x : α) :
    (rules.filter fun r => r.name == name && fires r).map (fun _ => x) =
      if rules.any fun r => r.name == name && fires r then [x] else [] := by
  induction rules with
  | nil => rfl
  | cons r rules ih =>
    rw [List.map_cons, List.nodup_cons] at distinct
    by_cases hname : r.name = name
    · -- no other rule has the name, so nothing is found behind this one
      have hother : ∀ q ∈ rules, (q.name == name && fires q) = false := by
        intro q hq
        have hne : q.name ≠ name :=
          fun h => distinct.1 (hname ▸ h ▸ List.mem_map_of_mem (f := (·.name)) hq)
        rw [beq_false_of_ne hne, Bool.false_and]
      have hnone : rules.filter (fun q => q.name == name && fires q) = [] :=
        List.filter_eq_nil_iff.mpr fun q hq => by simp [hother q hq]
      have hany : rules.any (fun q => q.name == name && fires q) = false :=
        List.any_eq_false.mpr fun q hq => by simp [hother q hq]
      rw [List.filter_cons, List.any_cons, hnone, hany, hname, beq_self_eq_true, Bool.true_and,
        Bool.or_false]
      split <;> rfl
    · have hfalse : (r.name == name && fires r) = false := by
        rw [beq_false_of_ne hname, Bool.false_and]
      rw [List.filter_cons, List.any_cons, hfalse, Bool.false_or]
      exact ih distinct.2

/-- **The lines on which the rule of a name fires**, if no other rule has that name. -/
theorem numbersOf_hitsFrom (distinct : (rules.map (·.name)).Nodup) (name : String) (number : Nat)
    (texts : List (List Char)) :
    ((hitsFrom rules source number texts).filter (·.rule.name == name)).map Hit.number =
      numbersFrom (fun number text => rules.any fun r => r.name == name &&
        r.fires ⟨text, number, source⟩) number texts := by
  induction texts generalizing number with
  | nil => rfl
  | cons text texts ih =>
    rw [hitsFrom, List.filter_append, List.map_append, ih, numbersFrom_cons, List.filter_map,
      List.map_map, List.filter_filter]
    congr 1
    exact map_filter_named distinct name (fun r => r.fires ⟨text, number, source⟩) number

/-- Rules that look at nothing but their line find the same wherever the line stands. -/
theorem hitsFrom_down (own : ∀ r ∈ rules, ∀ text number source number' source',
      r.fires ⟨text, number, source⟩ = r.fires ⟨text, number', source'⟩)
    (source source' : List Char) (n number : Nat) (texts : List (List Char)) :
    hitsFrom rules source (number + n) texts =
      (hitsFrom rules source' number texts).map (Hit.down n) := by
  induction texts generalizing number with
  | nil => rfl
  | cons text texts ih =>
    have hfires : rules.filter (fun r => r.fires ⟨text, ((number + n : Nat) : Int), source⟩) =
        rules.filter fun r => r.fires ⟨text, number, source'⟩ :=
      List.filter_congr fun r hr => own r hr _ _ _ _ _
    rw [hitsFrom, hitsFrom, List.map_append, Nat.add_right_comm, ih, hfires, List.map_map]
    rfl

end Scan

/-! ## 3. Rules that look further than their line -/

/-- The rules that look at the whole source, or at the number of the line. -/
def Catalog.wideRules : List String :=
  ["try-without-catch", "late-import", "datetime-import", "list-comprehension"]

/-- Whether a hit comes from a rule that looks at nothing but its line. -/
def Hit.isOwn (h : Hit) : Bool :=
  !wideRules.contains h.rule.name

/-- **All other rules look at nothing but their line.** -/
theorem Catalog.fires_own : ∀ r ∈ Catalog.all, r.name ∉ wideRules →
    ∀ text number source number' source',
      r.fires ⟨text, number, source⟩ = r.fires ⟨text, number', source'⟩ := by
  simp only [all, scriptRules, pythonRules, javaRules, generalRules, wideRules, List.cons_append,
    List.nil_append, List.mem_cons, List.not_mem_nil, or_false, not_or, and_imp, forall_eq_or_imp,
    forall_eq, String.reduceEq, not_false_eq_true, not_true_eq_false, forall_const,
    IsEmpty.forall_iff, true_and]
  and_intros <;> intros <;> rfl

/-- No two rules of the catalog have one name. -/
theorem Catalog.names_nodup (language : String) : ((rulesFor language).map (·.name)).Nodup := by
  refine ((rulesFor_sublist language).map _).nodup ?_
  decide

/-- The rules for a language, by its name. -/
theorem Catalog.rulesFor_cases (language : String) :
    (Language.isScript language = true ∧ language ≠ "python" ∧
        rulesFor language = scriptRules ++ generalRules) ∨
      (Language.isScript language = false ∧ language = "python" ∧
        rulesFor language = pythonRules ++ generalRules) ∨
      (Language.isScript language = false ∧ language ≠ "python" ∧
        rulesFor language ⊆ javaRules ++ generalRules) := by
  cases hname : Language.ofName? language with
  | none =>
    -- a language that has a name is not unknown
    have hne : ∀ l : Language, language ≠ l.name := by
      rintro l rfl
      rw [Language.ofName?_name] at hname
      exact absurd hname (by simp)
    refine .inr (.inr ⟨?_, hne .python, ?_⟩)
    · rw [Language.isScript, beq_false_of_ne (hne .javascript), beq_false_of_ne (hne .typescript)]
      rfl
    · rw [rulesFor_unknown hname]
      exact List.subset_append_right _ _
  | some l =>
    obtain rfl : l.name = language := by
      have hfound := List.find?_some hname
      exact eq_of_beq hfound
    rw [rulesFor_name]
    cases l with
    | javascript => exact .inl ⟨rfl, by decide, rfl⟩
    | typescript => exact .inl ⟨rfl, by decide, rfl⟩
    | python => exact .inr (.inl ⟨rfl, rfl, rfl⟩)
    | java => exact .inr (.inr ⟨rfl, by decide, List.Subset.refl _⟩)

/-- Without a rule of a name, none of that name fires. -/
theorem Catalog.any_named_eq_false {rules : List Rule} {name : String}
    (h : ∀ r ∈ rules, r.name ≠ name) (l : Line) :
    rules.any (fun r => r.name == name && r.fires l) = false := by
  refine List.any_eq_false.mpr fun r hr hfires => h r hr ?_
  rw [Bool.and_eq_true] at hfires
  exact eq_of_beq hfires.1

/-- A rule for JavaScript and TypeScript fires in these languages only. -/
theorem Catalog.any_script {name : String} {trigger : Line → Bool}
    (script : ∀ l, (scriptRules ++ generalRules).any (fun r => r.name == name && r.fires l) =
      trigger l)
    (python : ∀ r ∈ pythonRules ++ generalRules, r.name ≠ name)
    (java : ∀ r ∈ javaRules ++ generalRules, r.name ≠ name) (language : String) (l : Line) :
    (rulesFor language).any (fun r => r.name == name && r.fires l) =
      (Language.isScript language && trigger l) := by
  rcases rulesFor_cases language with ⟨hscript, -, hrules⟩ | ⟨hscript, -, hrules⟩ |
    ⟨hscript, -, hrules⟩
  · rw [hrules, script, hscript, Bool.true_and]
  · rw [hrules, any_named_eq_false python, hscript, Bool.false_and]
  · rw [any_named_eq_false fun r hr => java r (hrules hr), hscript, Bool.false_and]

/-- A rule for Python fires in Python only. -/
theorem Catalog.any_python {name : String} {trigger : Line → Bool}
    (python : ∀ l, (pythonRules ++ generalRules).any (fun r => r.name == name && r.fires l) =
      trigger l)
    (script : ∀ r ∈ scriptRules ++ generalRules, r.name ≠ name)
    (java : ∀ r ∈ javaRules ++ generalRules, r.name ≠ name) (language : String) (l : Line) :
    (rulesFor language).any (fun r => r.name == name && r.fires l) =
      (language == "python" && trigger l) := by
  rcases rulesFor_cases language with ⟨-, hpython, hrules⟩ | ⟨-, hpython, hrules⟩ |
    ⟨-, hpython, hrules⟩
  · rw [hrules, any_named_eq_false script, beq_false_of_ne hpython, Bool.false_and]
  · rw [hrules, python, hpython, beq_self_eq_true, Bool.true_and]
  · rw [any_named_eq_false fun r hr => java r (hrules hr), beq_false_of_ne hpython,
      Bool.false_and]

namespace Scan

/-- **The lines on which the rule of a name fires** are those on which its condition holds. -/
theorem numbersOf_eq {name language : String} {condition : Line → Bool}
    (h : ∀ l, (rulesFor language).any (fun r => r.name == name && r.fires l) = condition l)
    (code : String) :
    numbersOf name code language =
      numbersWhere (fun number text => condition ⟨text, number, code.toList⟩) code.toList := by
  rw [numbersOf, hits, numbersOf_hitsFrom (names_nodup language), numbersWhere]
  congr 1
  funext number text
  exact h _

theorem numbersOf_tryWithoutCatch (code language : String) :
    numbersOf "try-without-catch" code language = numbersWhere (fun number text =>
      Language.isScript language && tryWithoutCatch ⟨text, number, code.toList⟩) code.toList := by
  refine numbersOf_eq (any_script ?_ (by decide) (by decide) language) code
  simp [scriptRules, generalRules]

theorem numbersOf_lateImport (code language : String) :
    numbersOf "late-import" code language = numbersWhere (fun number text =>
      language == "python" && lateImport ⟨text, number, code.toList⟩) code.toList := by
  refine numbersOf_eq (any_python ?_ (by decide) (by decide) language) code
  simp [pythonRules, generalRules]

theorem numbersOf_datetimeImport (code language : String) :
    numbersOf "datetime-import" code language = numbersWhere (fun number text =>
      language == "python" && datetimeWithoutImport ⟨text, number, code.toList⟩) code.toList := by
  refine numbersOf_eq (any_python ?_ (by decide) (by decide) language) code
  simp [pythonRules, generalRules]

theorem numbersOf_listComprehension (code language : String) :
    numbersOf "list-comprehension" code language = numbersWhere (fun number text =>
      language == "python" && appendLoop ⟨text, number, code.toList⟩) code.toList := by
  refine numbersOf_eq (any_python ?_ (by decide) (by decide) language) code
  simp [pythonRules, generalRules]

end Scan

/-! ## 4. One source behind another -/

/-- A source, and another one from its next line on. -/
def joined (a b : String) : String :=
  a ++ "\n" ++ b

theorem toList_joined (a b : String) : (joined a b).toList = a.toList ++ '\n' :: b.toList := by
  simp [joined]

/-- The number of lines of a source. -/
def lineCount (code : String) : Nat :=
  (splitLines code.toList).length

/-- The hits in a source by rules that look at nothing but their line. -/
def Scan.ownHits (code language : String) : List Hit :=
  (Scan.hits code language).filter Hit.isOwn

/-- **A rule that looks at nothing but its line** finds in the whole what it finds in the parts. -/
theorem Scan.hits_local (a b language : String) :
    ownHits (joined a b) language =
      ownHits a language ++ (ownHits b language).map (Hit.down (lineCount a)) := by
  have hfilter : ∀ (source : List Char) (number : Nat) (texts : List (List Char)),
      (hitsFrom (rulesFor language) source number texts).filter Hit.isOwn =
        hitsFrom ((rulesFor language).filter fun r => !wideRules.contains r.name) source number
          texts :=
    fun source number texts => filter_hitsFrom (fun r => !wideRules.contains r.name) number texts
  have hown : ∀ r ∈ (rulesFor language).filter (fun r => !wideRules.contains r.name),
      ∀ text number source number' source',
        r.fires ⟨text, number, source⟩ = r.fires ⟨text, number', source'⟩ := by
    intro r hr
    obtain ⟨hmem, hname⟩ := List.mem_filter.mp hr
    exact fires_own r ((rulesFor_sublist language).subset hmem) (by simpa using hname)
  simp only [ownHits, hits, hfilter]
  rw [toList_joined, splitLines_joined, hitsFrom_append]
  congr 1
  · -- on the first lines nothing has moved but the source around them
    have hstay := hitsFrom_down hown (a.toList ++ '\n' :: b.toList) a.toList 0 1
      (splitLines a.toList)
    have hdown : Hit.down 0 = id := rfl
    rwa [hdown, List.map_id] at hstay
  · exact hitsFrom_down hown _ b.toList (lineCount a) 1 (splitLines b.toList)

/-- Hints look at nothing but their line. -/
theorem Insight.hintsFrom_down (hints : List Hint) (n number : Nat) (texts : List (List Char)) :
    hintsFrom hints (number + n) texts = (hintsFrom hints number texts).map (Finding.down n) := by
  induction texts generalizing number with
  | nil => rfl
  | cons text texts ih =>
    rw [hintsFrom, hintsFrom, List.map_append, Nat.add_right_comm, ih, List.map_map]
    rfl

/-- **The hints for one source behind another** are those for the two. -/
theorem Insight.performance_joined (a b language : String) :
    performance (joined a b) language =
      performance a language ++ (performance b language).map (Finding.down (lineCount a)) := by
  rw [performance, toList_joined, splitLines_joined, hintsFrom_append]
  exact congrArg _ (hintsFrom_down (hintsFor language) (lineCount a) 1 (splitLines b.toList))

/-- **The scan of one source behind another.**  The lines of the whole are those of the first source
and then those of the second, and what a scan finds and what it costs are its hits.  Rules that look
at nothing but their line find in the whole what they find in the first source and, so many lines
further down, what they find in the second, and the points add up.  The other four rules fire on the
lines that have their pieces: two of them if neither source has what would settle the matter, one if
either source has the empty list that it is about, and one on lines beyond the tenth of the whole.
Hints are those for the two sources. -/
theorem Scan.lines_joined (a b language : String) :
    splitLines (joined a b).toList = splitLines a.toList ++ splitLines b.toList ∧
      (∀ code, lines code language = ofHits (hits code language)) ∧
      ofHits (ownHits (joined a b) language) =
        (ofHits (ownHits a language)).append ((ofHits (ownHits b language)).down (lineCount a)) ∧
      numbersOf "try-without-catch" (joined a b) language =
        numbersWhere (fun _ text => Language.isScript language && has text "try \x7b" &&
          !(has a.toList "catch" || has b.toList "catch")) (joined a b).toList ∧
      numbersOf "datetime-import" (joined a b) language =
        numbersWhere (fun _ text => language == "python" && has text "datetime.now()" &&
          !(has a.toList "import datetime" || has b.toList "import datetime") &&
          !(has a.toList "from datetime" || has b.toList "from datetime")) (joined a b).toList ∧
      numbersOf "list-comprehension" (joined a b) language =
        numbersWhere (fun _ text => language == "python" && has text "for " &&
          has text "append(" && (has a.toList "results = []" || has b.toList "results = []"))
          (joined a b).toList ∧
      numbersOf "late-import" (joined a b) language =
        numbersWhere (fun number text => language == "python" &&
          begins (strip text) "import " && decide (10 < number)) (joined a b).toList ∧
      Insight.performance (joined a b) language =
        Insight.performance a language ++
          (Insight.performance b language).map (Finding.down (lineCount a)) := by
  have hhas : ∀ piece : String, '\n' ∉ piece.toList →
      has (joined a b).toList piece = (has a.toList piece || has b.toList piece) := by
    intro piece hpiece
    rw [toList_joined, has_joined hpiece]
  refine ⟨?lines, fun code => lines_eq_ofHits code language, ?own, ?tries, ?times, ?lists, ?imports,
    Insight.performance_joined a b language⟩
  case lines => rw [toList_joined, splitLines_joined]
  case own => rw [hits_local, ofHits_append, ofHits_down]
  case tries =>
    rw [numbersOf_tryWithoutCatch]
    simp only [tryWithoutCatch, hhas "catch" (by decide), Bool.and_assoc]
  case times =>
    rw [numbersOf_datetimeImport]
    simp only [datetimeWithoutImport, hhas "import datetime" (by decide),
      hhas "from datetime" (by decide), Bool.and_assoc]
  case lists =>
    rw [numbersOf_listComprehension]
    simp only [appendLoop, hhas "results = []" (by decide), Bool.and_assoc]
  case imports =>
    have hten : ∀ number : Nat, decide ((10 : Int) < (number : Int)) = decide (10 < number) :=
      fun number => decide_eq_decide.mpr (by omega)
    rw [numbersOf_lateImport]
    simp only [lateImport, Line.trimmed, hten, Bool.and_assoc]

end Critique
