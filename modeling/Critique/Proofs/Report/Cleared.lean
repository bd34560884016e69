/-
# What a rewrite clears

The catalog says what is wrong with a line and the rewrite mends some of it, and the two were
written apart.  On a source without calls of `console.log` they agree: four rules of the script
languages never fire on a rewritten line, five fire on a rewritten line exactly if they fired before,
and a line that was too long still is.

That a trigger is gone follows from the substitution that takes it out (`has_replaced`), and that
it is not back at the end from the later ones, which share no characters with it.  A comparison with
`==` is a case of its own: the trigger is not gone but is then part of a longer run, or it stands
behind a `!` that is on the same line (`looseEquality_substituted`).  That the other triggers neither
come nor go is a question about pieces of text (`has_substituted`), but for numbers: these are words
by themselves, and what goes out and what comes in begin and end alike (`Alike`), so that no number
gains or loses a neighbour.

* `firstNumber?_replaceAll`: the first number of a line stays what it is;
* `linesOf_lines`: the lines of a rule in a scan are those on which it fires;
* `linesOf_rewrite`: what the rewrite does to the lines of each rule.
-/
import Critique.Proofs.Report.Findings
import Critique.Proofs.Rewrite.Substitutions

namespace Critique

open Catalog Rewrite Text

/-! ## 1. Numbers -/

/-- Whether two pieces are alike to the numbers around them: there are no digits in them, both begin
with a word character or neither does, and the same holds of their ends. -/
def Alike (a b : List Char) : Prop :=
  (a ++ b).all (!isDigit ·) = true ∧ a.head?.any isWord = b.head?.any isWord ∧
    a.getLast?.any isWord = b.getLast?.any isWord

instance (a b : List Char) : Decidable (Alike a b) := inferInstanceAs (Decidable (_ ∧ _ ∧ _))

/-- The first number, seen from the front of a text. -/
theorem firstNumber?_cons (glued : Bool) (c : Char) (t : List Char) :
    firstNumber? glued (c :: t) =
      if !glued && decide (2 ≤ ((c :: t).takeWhile isDigit).length) &&
          !((c :: t).dropWhile isDigit).head?.any isWord then
        some ((c :: t).takeWhile isDigit)
      else firstNumber? (isWord c) t := by
  simp only [firstNumber?, drop_length_takeWhile]

/-- No number begins in a piece without digits; behind it only its end matters. -/
theorem firstNumber?_append {piece : List Char} (hne : piece ≠ [])
    (h : ∀ c ∈ piece, isDigit c = false) (glued : Bool) (s : List Char) :
    firstNumber? glued (piece ++ s) = firstNumber? (piece.getLast?.any isWord) s := by
  induction piece generalizing glued with
  | nil => exact absurd rfl hne
  | cons c piece ih =>
    rw [List.forall_mem_cons] at h
    have hrun : (c :: (piece ++ s)).takeWhile isDigit = [] := by
      rw [List.takeWhile_cons, h.1]
      rfl
    have hpassed : firstNumber? glued (c :: (piece ++ s)) = firstNumber? (isWord c) (piece ++ s) := by
      rw [firstNumber?_cons, hrun]
      simp
    rw [List.cons_append, hpassed]
    cases piece with
    | nil => rfl
    | cons d piece => rw [ih (List.cons_ne_nil d piece) h.2, List.getLast?_cons_cons]

theorem Alike.isDigit_eq_false {a b : List Char} (h : Alike a b) :
    ∀ c ∈ a ++ b, isDigit c = false :=
  fun c hc => by simpa using List.all_eq_true.mp h.1 c hc

variable {old new : String}

/-- The digits with which a text begins stay, and so does the kind of what follows them. -/
theorem digits_replaceAll (hne : old ≠ "") (hnew : new ≠ "") (h : Alike old.toList new.toList)
    (s : List Char) :
    (replaceAll old new s).takeWhile isDigit = s.takeWhile isDigit ∧
      ((replaceAll old new s).dropWhile isDigit).head?.any isWord =
        (s.dropWhile isDigit).head?.any isWord := by
  have hdigits := h.isDigit_eq_false
  have hhead := h.2.1
  induction s using replaceAll_induction hne with
  | nil => exact ⟨rfl, rfl⟩
  | occurrence rest _ =>
    rw [replaceAll_append hne]
    cases hold : old.toList with
    | nil => exact absurd (String.toList_eq_nil_iff.mp hold) hne
    | cons c piece =>
      cases hnew' : new.toList with
      | nil => exact absurd (String.toList_eq_nil_iff.mp hnew') hnew
      | cons d piece' =>
        rw [hold, hnew'] at hdigits hhead
        have hc : isDigit c = false := hdigits c (by simp)
        have hd : isDigit d = false := hdigits d (by simp)
        simp only [List.cons_append, List.takeWhile_cons, List.dropWhile_cons, hc, hd]
        exact ⟨rfl, hhead.symm⟩
  | copy c rest hcopy ih =>
    rw [replaceAll_cons hcopy, List.takeWhile_cons, List.takeWhile_cons, List.dropWhile_cons,
      List.dropWhile_cons]
    cases isDigit c with
    | true => exact ⟨congrArg (c :: ·) ih.1, ih.2⟩
    | false => exact ⟨rfl, rfl⟩

/-- **The first number of a text stays what it is.** -/
theorem firstNumber?_replaceAll (hne : old ≠ "") (hnew : new ≠ "")
    (h : Alike old.toList new.toList) (glued : Bool) (s : List Char) :
    firstNumber? glued (replaceAll old new s) = firstNumber? glued s := by
  have hold : old.toList ≠ [] := fun hnil => hne (String.toList_eq_nil_iff.mp hnil)
  have hnew' : new.toList ≠ [] := fun hnil => hnew (String.toList_eq_nil_iff.mp hnil)
  have hout : ∀ c ∈ old.toList, isDigit c = false := fun c hc =>
    h.isDigit_eq_false c (List.mem_append_left _ hc)
  have hin : ∀ c ∈ new.toList, isDigit c = false := fun c hc =>
    h.isDigit_eq_false c (List.mem_append_right _ hc)
  induction s using replaceAll_induction hne generalizing glued with
  | nil => rfl
  | occurrence rest ih =>
    rw [replaceAll_append hne, firstNumber?_append hold hout, firstNumber?_append hnew' hin, ih,
      h.2.2]
  | copy c rest hcopy ih =>
    obtain ⟨hrun, hbehind⟩ := digits_replaceAll hne hnew h (c :: rest)
    rw [replaceAll_cons hcopy] at hrun hbehind ⊢
    rw [firstNumber?_cons, firstNumber?_cons, hrun, hbehind, ih]

theorem firstNumber?_substituted (s : List Char) :
    firstNumber? false (substituted s) = firstNumber? false s := by
  rw [substituted, firstNumber?_replaceAll (by decide) (by decide) (by decide),
    firstNumber?_replaceAll (by decide) (by decide) (by decide),
    firstNumber?_replaceAll (by decide) (by decide) (by decide),
    firstNumber?_replaceAll (by decide) (by decide) (by decide)]

/-! ## 2. Triggers on a line after the substitutions -/

/-- A line after the substitutions, in its source after them. -/
def Line.substituted (l : Line) : Line :=
  ⟨Rewrite.substituted l.text, l.number, Rewrite.substituted l.source⟩

theorem usesVar_substituted (l : Line) : usesVar l.substituted = false := by
  have hgone : has (replaceAll "var " "const " l.text) "var " = false :=
    has_replaced (by decide) (by decide) _
  show has (Rewrite.substituted l.text) "var " = false
  rw [Rewrite.substituted, has_replaceAll (by decide) (by decide) (by decide),
    has_replaceAll (by decide) (by decide) (by decide),
    has_replaceAll (by decide) (by decide) (by decide), hgone]

theorem function_substituted (s : List Char) : has (substituted s) "function(" = false :=
  has_replaced (by decide) (by decide) _

theorem functionWithoutSpace_substituted (l : Line) :
    functionWithoutSpace l.substituted = false := by
  show (has (Rewrite.substituted l.text) "function(" && _) = false
  rw [function_substituted, Bool.false_and]

theorem singleReturnFunction_substituted (l : Line) :
    singleReturnFunction l.substituted = false := by
  show (has (Rewrite.substituted l.text) "function(" && _ && _) = false
  rw [function_substituted, Bool.false_and, Bool.false_and]

/-- **No comparison is loose after the substitutions.**  What was `==` is part of a longer run, and
where the pass over `!=` has made a run shorter than three, there is a `!` in front of it. -/
theorem looseEquality_substituted (l : Line) : looseEquality l.substituted = false := by
  generalize hdeclared : replaceAll "var " "const " l.text = declared
  generalize hdoubled : replaceAll "==" "===" declared = doubled
  have hline : ∀ piece : String, Spares "function(" "function (" piece → piece ≠ "" →
      has (Rewrite.substituted l.text) piece = has (replaceAll "!=" "!==" doubled) piece := by
    intro piece hspares hne
    rw [Rewrite.substituted, has_replaceAll hspares (by decide) hne, hdeclared, hdoubled]
  show (has (Rewrite.substituted l.text) "==" && !has (Rewrite.substituted l.text) "===" &&
    !has (Rewrite.substituted l.text) "!=" && !has (Rewrite.substituted l.text) "!==") = false
  rw [hline "==" (by decide) (by decide), hline "===" (by decide) (by decide),
    hline "!==" (by decide) (by decide)]
  by_cases hnegated : has doubled "!=" = true
  · have hstrict : has (replaceAll "!=" "!==" doubled) "!==" = true :=
      has_replacement (by decide) hnegated
    rw [hstrict, Bool.not_true, Bool.and_false]
  · rw [replaceAll_eq_self (Bool.not_eq_true _ ▸ hnegated)]
    by_cases hequal : has declared "==" = true
    · have hstrict : has doubled "===" = true := hdoubled ▸ has_replacement (by decide) hequal
      rw [hstrict, Bool.not_true, Bool.and_false, Bool.false_and, Bool.false_and]
    · rw [Bool.not_eq_true] at hequal
      rw [← hdoubled, replaceAll_eq_self hequal, hequal, Bool.false_and, Bool.false_and,
        Bool.false_and]

theorem consoleStatement_substituted (l : Line) :
    consoleStatement l.substituted = consoleStatement l := by
  simp (disch := decide) only [consoleStatement, Line.substituted, has_substituted]

theorem tryWithoutCatch_substituted (l : Line) :
    tryWithoutCatch l.substituted = tryWithoutCatch l := by
  simp (disch := decide) only [tryWithoutCatch, Line.substituted, has_substituted]

theorem evalOrInnerHtml_substituted (l : Line) :
    evalOrInnerHtml l.substituted = evalOrInnerHtml l := by
  simp (disch := decide) only [evalOrInnerHtml, Line.substituted, has_substituted]

theorem todoMarker_substituted (l : Line) : todoMarker l.substituted = todoMarker l := by
  simp (disch := decide) only [todoMarker, Line.substituted, has_substituted]

theorem magicNumber_substituted (l : Line) : magicNumber l.substituted = magicNumber l := by
  simp (disch := decide) only [magicNumber, Line.substituted, firstNumber?_substituted,
    has_substituted]

theorem longLine_substituted {l : Line} (h : longLine l = true) :
    longLine l.substituted = true := by
  have hlonger := length_le_substituted l.text
  have hlong : lineLimit < l.text.length := of_decide_eq_true h
  exact decide_eq_true (hlong.trans_le hlonger)

/-! ## 3. Rules -/

/-- The rules whose findings the rewrite clears. -/
def clearedRules : List String :=
  ["var-declaration", "loose-equality", "function-spacing", "arrow-function"]

/-- The rules whose findings the rewrite neither makes nor clears. -/
def keptRules : List String :=
  ["console-statement", "try-without-catch", "eval-innerhtml", "magic-number", "todo-comment"]

theorem fires_cleared (l : Line) : ∀ r ∈ scriptRules ++ generalRules,
    r.name ∈ clearedRules → r.fires l.substituted = false := by
  simp [scriptRules, generalRules, clearedRules, usesVar_substituted, looseEquality_substituted,
    functionWithoutSpace_substituted, singleReturnFunction_substituted]

theorem fires_kept (l : Line) : ∀ r ∈ scriptRules ++ generalRules,
    r.name ∈ keptRules → r.fires l.substituted = r.fires l := by
  simp [scriptRules, generalRules, keptRules, consoleStatement_substituted,
    tryWithoutCatch_substituted, evalOrInnerHtml_substituted, magicNumber_substituted,
    todoMarker_substituted]

theorem fires_length (l : Line) : ∀ r ∈ scriptRules ++ generalRules,
    r.name = "line-length" → r.fires l = true → r.fires l.substituted = true := by
  simp [scriptRules, generalRules]
  exact longLine_substituted

/-! ## 4. Scans -/

/-- The numbers of the lines on which a scan has a finding of a rule. -/
def Scan.linesOf (scan : Scan) (r : Rule) : List Nat :=
  (Grouping.ofKey (r.finding 0).key scan.findings).map (·.line)

/-- **The lines of a rule in a scan** are those on which the rule fires. -/
theorem Scan.linesOf_lines {code language : String} {r : Rule} (hr : r ∈ rulesFor language) :
    (Scan.lines code language).linesOf r =
      (r.check code.toList).linesFrom 1 (splitLines code.toList) := by
  have hdistinct := nodup_keys ((messages_rules code.toList language).nodup
    (List.nodup_append.mp messages_nodup).1)
  have hkey := LineCheck.ofKey_hits hdistinct
    (List.mem_map_of_mem (f := Rule.check code.toList) hr) 1 (splitLines code.toList)
  rw [linesOf, lines, findings_ofLines]
  exact (congrArg (List.map Finding.line) hkey).trans (by rw [List.map_map]; exact List.map_id _)

/-- The rules of a script language. -/
theorem Catalog.rulesFor_script {language : String} (h : Language.isScript language = true) :
    rulesFor language = scriptRules ++ generalRules := by
  rw [Language.isScript, Bool.or_eq_true, beq_iff_eq, beq_iff_eq] at h
  rcases h with rfl | rfl
  · exact rulesFor_name .javascript
  · exact rulesFor_name .typescript

/-- The rules of a script language are those that are cleared, those that are kept, and one more. -/
theorem Catalog.names_rulesFor_script {language : String}
    (h : Language.isScript language = true) :
    ((rulesFor language).map (·.name)).Perm (clearedRules ++ keptRules ++ ["line-length"]) := by
  rw [rulesFor_script h]
  decide

variable {c d : LineCheck} {f : List Char → List Char}

/-- A check that fires nowhere fires on no line of a text. -/
theorem LineCheck.linesFrom_eq_nil (h : ∀ number text, c.fires number (f text) = false)
    (number : Nat) (texts : List (List Char)) : c.linesFrom number (texts.map f) = [] := by
  induction texts generalizing number with
  | nil => rfl
  | cons text texts ih => rw [List.map_cons, linesFrom_cons, h, ih]; rfl

/-- Checks that fire alike, one behind a change of the lines, fire on the same lines. -/
theorem LineCheck.linesFrom_map (h : ∀ number text, c.fires number (f text) = d.fires number text)
    (number : Nat) (texts : List (List Char)) :
    c.linesFrom number (texts.map f) = d.linesFrom number texts := by
  induction texts generalizing number with
  | nil => rfl
  | cons text texts ih => rw [List.map_cons, linesFrom_cons, linesFrom_cons, h, ih]

/-- A check that fires behind a change of the lines where another one fires, fires on its lines. -/
theorem LineCheck.linesFrom_subset
    (h : ∀ number text, d.fires number text = true → c.fires number (f text) = true)
    (number : Nat) (texts : List (List Char)) :
    d.linesFrom number texts ⊆ c.linesFrom number (texts.map f) := by
  induction texts generalizing number with
  | nil => exact List.Subset.refl _
  | cons text texts ih =>
    rw [List.map_cons, linesFrom_cons, linesFrom_cons]
    cases hfires : d.fires number text with
    | false => exact List.Subset.trans (ih _) (List.subset_append_right _ _)
    | true =>
      rw [h number text hfires]
      exact List.append_subset.mpr ⟨List.subset_append_left _ _,
        List.Subset.trans (ih _) (List.subset_append_right _ _)⟩

/-- **The rewrite clears four rules, keeps the lines of five, and shortens no line**, for every
source without calls of `console.log` in a script language; there is one more rule, the one on the
length of lines. -/
theorem linesOf_rewrite {code language : String} (plain : has code.toList callHead = false)
    (script : Language.isScript language = true) :
    ((rulesFor language).map (·.name)).Perm (clearedRules ++ keptRules ++ ["line-length"]) ∧
      ∀ r ∈ rulesFor language,
        (r.name ∈ clearedRules → (Scan.lines (rewrite code) language).linesOf r = []) ∧
        (r.name ∈ keptRules → (Scan.lines (rewrite code) language).linesOf r =
          (Scan.lines code language).linesOf r) ∧
        (r.name = "line-length" → (Scan.lines code language).linesOf r ⊆
          (Scan.lines (rewrite code) language).linesOf r) := by
  refine ⟨names_rulesFor_script script, fun r hr => ?_⟩
  have hrule : r ∈ scriptRules ++ generalRules := rulesFor_script script ▸ hr
  have hsource : (rewrite code).toList = substituted code.toList := by
    rw [rewrite, String.toList_ofList, rewriteChars_eq_substituted plain]
  rw [Scan.linesOf_lines hr, Scan.linesOf_lines hr, hsource, splitLines_substituted]
  refine ⟨fun hname => ?_, fun hname => ?_, fun hname => ?_⟩
  · exact LineCheck.linesFrom_eq_nil
      (fun number text => fires_cleared ⟨text, number, code.toList⟩ r hrule hname) 1 _
  · exact LineCheck.linesFrom_map
      (fun number text => fires_kept ⟨text, number, code.toList⟩ r hrule hname) 1 _
  · exact LineCheck.linesFrom_subset
      (fun number text => fires_length ⟨text, number, code.toList⟩ r hrule hname) 1 _

/-- A source of two lines on which both kinds of rules fire. -/
theorem linesOf_rewrite_of_two :
    let code := "var total = 42;\nif (a == b) \x7b eval(f); \x7d"
    has code.toList callHead = false ∧ Language.isScript "typescript" = true ∧
      ∀ r ∈ rulesFor "typescript",
        (r.name ∈ clearedRules → (Scan.lines (rewrite code) "typescript").linesOf r = []) ∧
        (r.name ∈ keptRules → (Scan.lines (rewrite code) "typescript").linesOf r =
          (Scan.lines code "typescript").linesOf r) ∧
        (r.name = "line-length" → (Scan.lines code "typescript").linesOf r ⊆
          (Scan.lines (rewrite code) "typescript").linesOf r) := by
  intro code
  have plain : has code.toList callHead = false := by decide
  have script : Language.isScript "typescript" = true := by decide
  exact ⟨plain, script, (linesOf_rewrite plain script).2⟩

end Critique
