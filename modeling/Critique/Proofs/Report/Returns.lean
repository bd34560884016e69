/-
# Reports on sources with carriage returns

A source is read line by line at its line feeds, and where its lines end in a carriage return and a
line feed, the carriage return stays on the line.  Nothing comes of that: what is said of a source
and how it is scored is the same, and where a rewrite is offered it has the line ends that the source
has.  The one exception is a line of just as many characters as a line may have, which a carriage
return takes beyond the limit.

Each part of a report is taken on its own.  All that rules ask of a line, of the same line without
blanks around it and of the whole source is listed once (`Line.Similar`), and a carriage return
changes none of the answers (`similar_return`).  The branches of a program may stretch over several
lines, but only over blanks, and both kinds of line ends are blank (`beginsCall_crlf`).  The rewrite
goes pass by pass, and the pass that drops calls takes line ends of either kind along with a call
(`withoutCalls_crlf`).

* `rewrite_withReturns`: the rewrite keeps line ends;
* `Line.Similar.fires` and `similar_return`: rules on lines with carriage returns;
* `Scan.all_withReturns` and `Insight.all_withReturns`: scans and insights are the same;
* `Report.analyze_withReturns`: so are reports, but for the line ends of the rewrite.
-/
import Critique.Proofs.Report.Cleared
import Critique.Proofs.Rewrite.Calls
import Critique.Proofs.Text.Returns

namespace Critique

open Catalog Text

/-- The source with a carriage return in front of every line feed. -/
def withReturns (code : String) : String :=
  String.ofList (crlf code.toList)

@[simp] theorem toList_withReturns (code : String) :
    (withReturns code).toList = crlf code.toList :=
  String.toList_ofList

/-! ## 1. Rewrites -/

namespace Rewrite

theorem keepsCalls_crlf : KeepsCalls "\n" "\r\n" :=
  ⟨by decide, by decide, by decide, by decide, .inl (by decide)⟩

/-- **Calls are dropped alike**, and the blanks behind them, whatever line ends are among these. -/
theorem withoutCalls_crlf (s : List Char) : withoutCalls (crlf s) = crlf (withoutCalls s) := by
  fun_induction withoutCalls s with
  | case1 => rw [crlf_nil, withoutCalls_nil]
  | case2 c t hcall ih =>
    have hstarts : StartsCall (crlf (c :: t)) := keepsCalls_crlf.startsCall_replaceAll.mpr hcall
    have hbehind : behindCall (crlf (c :: t)) = crlf (behindCall (c :: t)) :=
      keepsCalls_crlf.behindCall_replaceAll hcall
    rw [withoutCalls_call hstarts, hbehind, ih]
  | case3 c t hcall ih =>
    by_cases hc : c = '\n'
    · subst hc
      rw [crlf_newline, crlf_newline, withoutCalls_cons (not_startsCall (by decide) _),
        withoutCalls_cons (not_startsCall (by decide) _), ih]
    · have hcopied : ¬ StartsCall (crlf (c :: t)) := fun hstarts =>
        hcall (keepsCalls_crlf.startsCall_replaceAll.mp hstarts)
      rw [crlf_cons hc] at hcopied
      rw [crlf_cons hc, crlf_cons hc, withoutCalls_cons hcopied, ih]

/-- **The rewrite keeps line ends.** -/
theorem rewrite_withReturns (code : String) :
    rewrite (withReturns code) = withReturns (rewrite code) := by
  have hpasses : rewriteChars (crlf code.toList) = crlf (rewriteChars code.toList) := by
    simp (disch := decide) only [rewrite_eq_comp, dropCalls_eq_withoutCalls, replaceAll_crlf,
      withoutCalls_crlf]
  rw [rewrite, toList_withReturns, hpasses, withReturns, rewrite, String.toList_ofList]

end Rewrite

/-! ## 2. Rules -/

/-- The digits with which a line begins stay, and so does the kind of what follows them. -/
theorem digits_return (s : List Char) :
    (s ++ ['\r']).takeWhile isDigit = s.takeWhile isDigit ∧
      ((s ++ ['\r']).dropWhile isDigit).head?.any isWord = (s.dropWhile isDigit).head?.any isWord := by
  induction s with
  | nil => exact ⟨rfl, rfl⟩
  | cons c t ih =>
    rw [List.cons_append, List.takeWhile_cons, List.takeWhile_cons, List.dropWhile_cons,
      List.dropWhile_cons]
    cases isDigit c with
    | true => exact ⟨congrArg (c :: ·) ih.1, ih.2⟩
    | false => exact ⟨rfl, rfl⟩

/-- A line with a carriage return has the same first number. -/
theorem firstNumber?_return (glued : Bool) (s : List Char) :
    firstNumber? glued (s ++ ['\r']) = firstNumber? glued s := by
  induction s generalizing glued with
  | nil => cases glued <;> rfl
  | cons c t ih =>
    obtain ⟨hrun, hbehind⟩ := digits_return (c :: t)
    rw [List.cons_append] at hrun hbehind ⊢
    rw [firstNumber?_cons, firstNumber?_cons, hrun, hbehind, ih]

/-- Whether two lines are the same to all rules: whatever a rule may ask has the same answer. -/
structure Line.Similar (l l' : Line) : Prop where
  text : ∀ piece, Inline piece → has l'.text piece = has l.text piece
  counts : ∀ piece, Inline piece → count piece.toList l'.text = count piece.toList l.text
  firstNumber : firstNumber? false l'.text = firstNumber? false l.text
  length : longLine l' = longLine l
  trimmed : l'.trimmed = l.trimmed
  number : l'.number = l.number
  source : ∀ piece, Inline piece → has l'.source piece = has l.source piece

/-- **Rules fire alike** on lines that are the same to them. -/
theorem Line.Similar.fires {l l' : Line} (h : l.Similar l') :
    ∀ r ∈ Catalog.all, r.fires l' = r.fires l := by
  have hmagic : magicNumber l' = magicNumber l := by
    simp (disch := decide) only [magicNumber, h.firstNumber, h.text]
  simp (disch := decide) only [Catalog.all, scriptRules, pythonRules, javaRules, generalRules,
    List.forall_mem_append, List.forall_mem_cons, List.not_mem_nil, IsEmpty.forall_iff,
    implies_true, and_true, usesVar, looseEquality, consoleStatement, functionWithoutSpace,
    singleReturnFunction, tryWithoutCatch, evalOrInnerHtml, lateImport, capitalizedFunction,
    bareExcept, printConcatenation, unsafeAccess, datetimeWithoutImport, mutationInLoop,
    appendLoop, smallClass, capitalizedMember, todoMarker, h.text, h.counts, h.trimmed, h.number,
    h.source, h.length, hmagic]

/-- The last line is the same to all rules: only the source around it changes. -/
theorem similar_crlf (text : List Char) (number : Int) (source : List Char) :
    Line.Similar ⟨text, number, source⟩ ⟨text, number, crlf source⟩ where
  text _ _ := rfl
  counts _ _ := rfl
  firstNumber := rfl
  length := rfl
  trimmed := rfl
  number := rfl
  source _ hpiece := has_crlf hpiece source

/-- **A line with a carriage return is the same to all rules**, but if it was just as long as a line
may be. -/
theorem similar_return {text : List Char} (h : text.length ≠ lineLimit) (number : Int)
    (source : List Char) :
    Line.Similar ⟨text, number, source⟩ ⟨text ++ ['\r'], number, crlf source⟩ where
  text _ hpiece := has_return hpiece text
  counts _ hpiece := count_return hpiece text
  firstNumber := firstNumber?_return false text
  length := by
    show decide (lineLimit < (text ++ ['\r']).length) = decide (lineLimit < text.length)
    rw [List.length_append, List.length_singleton, decide_eq_decide]
    omega
  trimmed := strip_return text
  number := rfl
  source _ hpiece := has_crlf hpiece source

/-! ## 3. Scans -/

namespace Scan

/-- **Scans are alike** if the lines that go together are the same to all rules. -/
theorem ofLines_congr {rules : List Rule} (hrules : rules ⊆ Catalog.all)
    {source source' : List Char} {texts texts' : List (List Char)}
    (h : List.Forall₂ (fun text text' => ∀ number : Nat,
      Line.Similar ⟨text, number, source⟩ ⟨text', number, source'⟩) texts texts')
    (number : Nat) : ofLines rules source' number texts' = ofLines rules source number texts := by
  induction h generalizing number with
  | nil => rfl
  | cons hline _ ih =>
    have hfires := fun r hr => (hline number).fires r (hrules hr)
    rw [ofLines, ofLines, ih, ofLine, ofLine, List.filter_congr hfires]

/-- The lines of a source are scanned alike. -/
theorem lines_withReturns {code : String}
    (h : ∀ line ∈ (splitLines code.toList).dropLast, line.length ≠ lineLimit) (language : String) :
    lines (withReturns code) language = lines code language := by
  rw [lines, lines, toList_withReturns]
  refine ofLines_congr (rulesFor_sublist language).subset (forall₂_splitLines_crlf ?_ ?_) 1
  · exact fun line number => similar_crlf line number code.toList
  · exact fun line hline number => similar_return (h line hline) number code.toList

theorem triesOnly_crlf (s : List Char) : triesOnly (crlf s) = triesOnly s := by
  simp (disch := decide) only [triesOnly, lower_crlf, has_crlf]

theorem functionCount_crlf (s : List Char) : functionCount (crlf s) = functionCount s := by
  rw [functionCount, functionCount, lower_crlf]
  refine countWhere_crlf (fun _ => rfl) (fun _ => rfl) (fun t => ?_) (lower s)
  rw [begins_crlf (by decide), begins_crlf (by decide)]

theorem hasLargeFunctions_crlf (s : List Char) :
    hasLargeFunctions (crlf s) = hasLargeFunctions s := by
  rw [hasLargeFunctions, hasLargeFunctions, functionCount_crlf, length_splitLines_crlf]

/-- The source as a whole is checked alike. -/
theorem whole_withReturns (code : String) : whole (withReturns code) = whole code := by
  have hchecks : ∀ check ∈ wholeChecks, check.fires (crlf code.toList) = check.fires code.toList := by
    simp [wholeChecks, triesOnly_crlf, hasLargeFunctions_crlf]
  rw [whole, whole, toList_withReturns, List.filter_congr hchecks]

theorem all_withReturns {code : String}
    (h : ∀ line ∈ (splitLines code.toList).dropLast, line.length ≠ lineLimit) (language : String) :
    all (withReturns code) language = all code language := by
  rw [all, all, lines_withReturns h, whole_withReturns]

end Scan

/-! ## 4. Insights -/

namespace Insight

theorem dropWhile_crlf (s : List Char) :
    (crlf s).dropWhile isBlank = crlf (s.dropWhile isBlank) :=
  Rewrite.keepsCalls_crlf.dropWhile_replaceAll s

/-- **Branches are found across line ends**: the blanks between the words of a branch may hold line
ends of either kind. -/
theorem beginsCall_crlf {words : List String} (h : ∀ word ∈ words, Inline word) (s : List Char) :
    beginsCall words (crlf s) = beginsCall words s := by
  induction words generalizing s with
  | nil =>
    cases s with
    | nil => rfl
    | cons c t =>
      by_cases hc : c = '\n'
      · subst hc
        rfl
      · rw [crlf_cons hc]
        rfl
  | cons word words ih =>
    rw [List.forall_mem_cons] at h
    rw [beginsCall, beginsCall, begins_crlf h.1]
    by_cases hword : begins s word = true
    · obtain ⟨rest, rfl⟩ := List.isPrefixOf_iff_prefix.mp hword
      have hdrop : ∀ t : List Char, (word.toList ++ t).drop word.length = t := fun _ =>
        List.drop_left
      rw [crlf_append h.1.2.2, hdrop, hdrop, dropWhile_crlf, ih h.2]
    · rw [Bool.not_eq_true] at hword
      rw [hword, Bool.false_and, Bool.false_and]

theorem inline_branchWords : ∀ words ∈ branchWords, words ≠ [] ∧ ∀ word ∈ words, Inline word := by
  decide

/-- A source has as many branches with either kind of line ends. -/
theorem branches_crlf (s : List Char) : branches (crlf s) = branches s := by
  have hwords : ∀ words ∈ branchWords,
      countWhere (beginsCall words) (crlf s) = countWhere (beginsCall words) s := by
    intro words hmem
    obtain ⟨hne, hinline⟩ := inline_branchWords words hmem
    obtain ⟨word, rest, rfl⟩ := List.exists_cons_of_ne_nil hne
    obtain ⟨hword, hreturn, hnewline⟩ := hinline word List.mem_cons_self
    refine countWhere_crlf (fun t => ?_) (fun t => ?_) (beginsCall_crlf hinline) s
    · rw [beginsCall, begins_cons_eq_false hword hreturn, Bool.false_and]
    · rw [beginsCall, begins_cons_eq_false hword hnewline, Bool.false_and]
  have hoperators : ∀ operator ∈ branchOperators,
      count operator.toList (crlf s) = count operator.toList s := by
    have hinline : ∀ operator ∈ branchOperators, Inline operator := by decide
    exact fun operator hmem => count_crlf (hinline operator hmem) s
  rw [branches, branches, List.map_congr_left hwords, List.map_congr_left hoperators]

theorem complexity_withReturns (code : String) : complexity (withReturns code) = complexity code := by
  rw [complexity, complexity, toList_withReturns, branches_crlf]

/-- A source with comments has them with either kind of line ends. -/
theorem documented_withReturns (code language : String) :
    documented (withReturns code) language = documented code language := by
  rw [documented, documented, toList_withReturns]
  cases Language.ofName? language with
  | none => rfl
  | some l => cases l <;> simp (disch := decide) only [commentMarkers, List.any_cons,
      List.any_nil, has_crlf]

theorem hint_return {language : String} : ∀ h ∈ hintsFor language, ∀ text,
    h.fires (text ++ ['\r']) = h.fires text := by
  have hall : ∀ h ∈ allHints, ∀ text, h.fires (text ++ ['\r']) = h.fires text := by
    simp (disch := decide) [allHints, hintsFor, Language.isScript, Language.name, lengthInLoop,
      documentQuery, textAddition, has_return]
  exact fun h hh => hall h ((hintsFor_sublist language).subset hh)

/-- Hints are alike if they fire alike on lines that go together. -/
theorem hintsFrom_congr {hints : List Hint} {texts texts' : List (List Char)}
    (h : List.Forall₂ (fun text text' => ∀ hint ∈ hints, hint.fires text' = hint.fires text)
      texts texts') (number : Nat) : hintsFrom hints number texts' = hintsFrom hints number texts := by
  induction h generalizing number with
  | nil => rfl
  | cons hline _ ih => rw [hintsFrom, hintsFrom, ih, List.filter_congr hline]

theorem performance_withReturns (code language : String) :
    performance (withReturns code) language = performance code language := by
  rw [performance, performance, toList_withReturns]
  exact hintsFrom_congr (forall₂_splitLines_crlf (fun _ _ _ => rfl)
    fun line _ hint hhint => hint_return hint hhint line) 1

theorem all_withReturns (code language : String) :
    all (withReturns code) language = all code language := by
  rw [all, all, complexityHints, complexityHints, complexity_withReturns, documentationHints,
    documentationHints, documented_withReturns, performance_withReturns]

end Insight

/-! ## 5. Reports -/

/-- **A report does not depend on line ends**, but for those of the rewrite, if no line that a line
feed ends is just as long as a line may be. -/
theorem Report.analyze_withReturns {code : String}
    (h : ∀ line ∈ (splitLines code.toList).dropLast, line.length ≠ lineLimit) (language : String) :
    analyze (withReturns code) language =
      { analyze code language with
        rewritten := (analyze code language).rewritten.map withReturns } := by
  rw [analyze, analyze, ofSource, ofSource]
  simp only [Scan.all_withReturns h, Insight.all_withReturns, Rewrite.rewrite_withReturns]
  split <;> rfl

/-- A source with a call on a line of its own. -/
theorem Report.analyze_withReturns_of_four :
    let code := "var x = 1;\nif (x == 2) \x7b\n  console.log(x);\n\x7d"
    (∀ line ∈ (splitLines code.toList).dropLast, line.length ≠ lineLimit) ∧
      analyze (withReturns code) "JavaScript" =
        { analyze code "JavaScript" with
          rewritten := (analyze code "JavaScript").rewritten.map withReturns } := by
  intro code
  have h : ∀ line ∈ (splitLines code.toList).dropLast, line.length ≠ lineLimit := by decide
  exact ⟨h, Report.analyze_withReturns h "JavaScript"⟩

end Critique
