/-
# The rewrite as one scan

The rewrite is five passes, each over what the one before has left.  Here it is put against a
scanner that never looks at its own output in the first three of them: `swept` goes through the
source once, and what it makes of a declaration or of a run of `=` depends on the source alone.  Two
more scans follow, one that cuts calls out of the text (`withoutCalls`) and one that puts a space
behind `function` (`spaced`).

The passes are fused run by run.  The pass over `==` makes `k + k / 2` of a run of `k`, whatever
stands around it (`replaceAll_run`).  It leaves an empty run empty and makes no run where there was
none, so the pass over `!=` finds a `!` in front of a run exactly where the source has one; and it
takes the `!` and the first `=` of the run, so a run grows by one and by no more.  The induction is
on the scan, with the `!` that may stand in front of the text in hand (`mark`).

* `replaceAll_run`: what becomes of a run of `=`;
* `fused_eq_swept`: the first three passes are one sweep;
* `dropCalls_eq_withoutCalls`: the fourth pass cuts calls out;
* `rewrite_eq_scan`: the rewrite is the three scans.
-/
import Critique.Proofs.Text.Replacing
import Critique.Rewrite
import Mathlib.Data.List.TakeWhile
import Mathlib.Data.Nat.Init

namespace Critique.Rewrite

open Text

/-! ## 1. The scanner -/

/-- How long the run becomes that stands for a run of `length`, behind a `!` or not. -/
def runLength (length : Nat) (negated : Bool) : Nat :=
  length + length / 2 + if negated then 1 else 0

/-- The text behind the run of `=` with which a text begins. -/
def behindRun (s : List Char) : List Char :=
  s.dropWhile (· == '=')

/-- The sweep of a text behind a character of the source: `var ` becomes `const `, every longest run
of `=` grows, all else is copied. -/
def sweptBehind (previous : Option Char) : List Char → List Char
  | [] => []
  | c :: t =>
    if "var ".toList <+: c :: t then "const ".toList ++ sweptBehind (some ' ') (t.drop 3)
    else if c = '=' then
      let length := (t.takeWhile (· == '=')).length + 1
      List.replicate (runLength length (previous == some '!')) '='
        ++ sweptBehind (some '=') (behindRun t)
    else c :: sweptBehind (some c) t
termination_by s => s.length
decreasing_by
  · simp only [List.length_drop, List.length_cons]
    omega
  · exact Nat.lt_succ_of_le (List.dropWhile_sublist _).length_le
  · exact Nat.lt_succ_self _

/-- The sweep of a source. -/
def swept (s : List Char) : List Char :=
  sweptBehind none s

/-- Whether a call with a closing parenthesis stands at the start of a text. -/
def StartsCall (s : List Char) : Prop :=
  callHead.toList <+: s ∧ ')' ∈ s.drop callHead.length

instance (s : List Char) : Decidable (StartsCall s) := inferInstanceAs (Decidable (_ ∧ _))

/-- The text without the semicolon that it may begin with. -/
def behindSemicolon : List Char → List Char
  | ';' :: t => t
  | s => s

/-- The text behind the call that it begins with: behind the first closing parenthesis, behind one
semicolon, and behind all blanks that follow. -/
def behindCall (s : List Char) : List Char :=
  let behind := ((s.drop callHead.length).dropWhile (· != ')')).drop 1
  (behindSemicolon behind).dropWhile isBlank

/-- What stands behind a call is shorter than the text. -/
theorem length_behindCall_lt (c : Char) (t : List Char) :
    (behindCall (c :: t)).length < (c :: t).length := by
  have hsemicolon : ∀ s : List Char, (behindSemicolon s).length ≤ s.length := by
    intro s
    unfold behindSemicolon
    split <;> simp
  have hhead : callHead.length = 12 := by decide
  calc (behindCall (c :: t)).length
      ≤ (behindSemicolon ((((c :: t).drop callHead.length).dropWhile (· != ')')).drop 1)).length :=
        (List.dropWhile_sublist _).length_le
    _ ≤ ((((c :: t).drop callHead.length).dropWhile (· != ')')).drop 1).length := hsemicolon _
    _ ≤ ((c :: t).drop callHead.length).length :=
        ((List.drop_sublist _ _).trans (List.dropWhile_sublist _)).length_le
    _ < (c :: t).length := by
        rw [List.length_drop, List.length_cons]
        omega

/-- The text without its calls; the scan goes on behind each of them. -/
def withoutCalls : List Char → List Char
  | [] => []
  | c :: t =>
    if StartsCall (c :: t) then withoutCalls (behindCall (c :: t)) else c :: withoutCalls t
termination_by s => s.length
decreasing_by
  · exact length_behindCall_lt c t
  · exact Nat.lt_succ_self _

/-- The text with `function (` for every `function(`. -/
def spaced : List Char → List Char
  | [] => []
  | c :: t =>
    if "function(".toList <+: c :: t then "function (".toList ++ spaced (t.drop 8)
    else c :: spaced t
termination_by s => s.length
decreasing_by
  · simp only [List.length_drop, List.length_cons]
    omega
  · exact Nat.lt_succ_self _

/-! ## 2. What becomes of a run -/

/-- The pass over declarations makes no text begin with `=`. -/
theorem head?_replaceAll_declaration {s : List Char} (h : s.head? ≠ some '=') :
    (replaceAll "var " "const " s).head? ≠ some '=' := by
  cases s with
  | nil => simp
  | cons c t =>
    by_cases hprefix : "var ".toList <+: c :: t
    · obtain ⟨rest, hrest⟩ := hprefix
      rw [← hrest, replaceAll_append (by decide)]
      simp
    · rw [replaceAll_cons hprefix]
      exact h

/-- Behind its first character a text goes on as the pair that it begins with. -/
theorem head?_behind_pair {a b c : Char} {rest : List Char} (h : [a, b] <+: c :: rest) :
    rest.head? = some b := by
  obtain ⟨t, ht⟩ := (List.cons_prefix_cons.mp h).2
  rw [← ht]
  rfl

/-- **A run of `k` becomes one of `k + k / 2`**, if no `=` follows it. -/
theorem replaceAll_run (k : Nat) {rest : List Char} (h : rest.head? ≠ some '=') :
    replaceAll "==" "===" (List.replicate k '=' ++ rest)
      = List.replicate (k + k / 2) '=' ++ replaceAll "==" "===" rest := by
  induction k using Nat.twoStepInduction with
  | zero => rfl
  | one => exact replaceAll_cons fun hprefix => h (head?_behind_pair hprefix)
  | more k ih _ =>
    have hpair : List.replicate (k + 2) '=' ++ rest
        = "==".toList ++ (List.replicate k '=' ++ rest) := rfl
    have hgrown : List.replicate (k + 2 + (k + 2) / 2) '='
        = "===".toList ++ List.replicate (k + k / 2) '=' := by
      rw [show k + 2 + (k + 2) / 2 = 3 + (k + k / 2) by omega, List.replicate_add]
      rfl
    rw [hpair, replaceAll_append (by decide), ih, hgrown, List.append_assoc]

/-- A text is a run of `=` and what stands behind it. -/
theorem replicate_append_behindRun (s : List Char) :
    List.replicate (s.takeWhile (· == '=')).length '=' ++ behindRun s = s := by
  have hrun : List.replicate (s.takeWhile (· == '=')).length '=' = s.takeWhile (· == '=') := by
    refine (List.eq_replicate_iff.mpr ⟨rfl, fun c hc => ?_⟩).symm
    simpa using List.mem_takeWhile_imp hc
  rw [hrun, behindRun, List.takeWhile_append_dropWhile]

theorem head?_behindRun (s : List Char) : (behindRun s).head? ≠ some '=' := by
  intro h
  have := List.head?_dropWhile_not (· == '=') s
  rw [behindRun] at h
  rw [h] at this
  exact absurd this (by decide)

/-! ## 3. The first three passes -/

/-- What stands in front of the text in hand: the `!` that the last character was, or nothing. -/
def mark (previous : Option Char) : List Char :=
  if previous = some '!' then ['!'] else []

/-- The pass over `!=` copies a mark that no `=` follows. -/
theorem replaceAll_mark (previous : Option Char) {rest : List Char} (h : rest.head? ≠ some '=') :
    replaceAll "!=" "!==" (mark previous ++ rest) = mark previous ++ replaceAll "!=" "!==" rest := by
  unfold mark
  split
  · exact replaceAll_cons fun hprefix => h (head?_behind_pair hprefix)
  · rfl

/-- The pass over `!=` adds one to a run behind a `!`, and nothing to another one. -/
theorem replaceAll_mark_run (previous : Option Char) (k : Nat) (rest : List Char) :
    replaceAll "!=" "!==" (mark previous ++ (List.replicate (k + 1) '=' ++ rest))
      = mark previous ++ (List.replicate (k + 1 + if previous == some '!' then 1 else 0) '='
        ++ replaceAll "!=" "!==" rest) := by
  have hcopy : ∀ n, replaceAll "!=" "!==" (List.replicate n '=' ++ rest)
      = List.replicate n '=' ++ replaceAll "!=" "!==" rest := fun n =>
    replaceAll_copy_append (by decide) (fun c hc => by rw [List.eq_of_mem_replicate hc]; decide) rest
  by_cases hprevious : previous = some '!'
  · have hmark : mark previous ++ (List.replicate (k + 1) '=' ++ rest)
        = "!=".toList ++ (List.replicate k '=' ++ rest) := by
      rw [mark, if_pos hprevious]
      rfl
    rw [hmark, replaceAll_append (by decide), hcopy, hprevious]
    rfl
  · rw [mark, if_neg hprevious, List.nil_append, List.nil_append, hcopy]
    simp [hprevious]

/-- **The first three passes are one sweep**, also behind a `!`. -/
theorem fused_eq_sweptBehind (previous : Option Char) (s : List Char) :
    replaceAll "!=" "!==" (mark previous ++ replaceAll "==" "===" (replaceAll "var " "const " s))
      = mark previous ++ sweptBehind previous s := by
  fun_induction sweptBehind previous s with
  | case1 previous => exact replaceAll_mark previous (by simp)
  | case2 previous c t hvar ih =>
    obtain ⟨rest, hrest⟩ := hvar
    have hdrop : t.drop 3 = rest := by
      have := congrArg (List.drop 4) hrest
      simpa using this.symm
    rw [hdrop] at ih ⊢
    have hdoubled : replaceAll "==" "===" ("const ".toList ++ replaceAll "var " "const " rest)
        = "const ".toList ++ replaceAll "==" "===" (replaceAll "var " "const " rest) :=
      replaceAll_copy_append (by decide) (by simp) _
    have hnegated : replaceAll "!=" "!=="
          ("const ".toList ++ replaceAll "==" "===" (replaceAll "var " "const " rest))
        = "const ".toList
          ++ replaceAll "!=" "!==" (replaceAll "==" "===" (replaceAll "var " "const " rest)) :=
      replaceAll_copy_append (by decide) (by simp) _
    rw [← hrest, replaceAll_append (by decide), hdoubled, replaceAll_mark previous (by simp),
      hnegated]
    exact congrArg (fun text => mark previous ++ ("const ".toList ++ text)) ih
  | case3 previous t length hvar ih =>
    have hrun : '=' :: t = List.replicate length '=' ++ behindRun t := by
      rw [List.replicate_succ, List.cons_append, replicate_append_behindRun]
    have hend : (replaceAll "var " "const " (behindRun t)).head? ≠ some '=' :=
      head?_replaceAll_declaration (head?_behindRun t)
    have hpositive : length + length / 2 = length + length / 2 - 1 + 1 := by omega
    have hcopied : ∀ c ∈ List.replicate length '=', "var ".toList.head? ≠ some c := by
      intro c hc
      rw [List.eq_of_mem_replicate hc]
      decide
    rw [hrun, replaceAll_copy_append (by decide) hcopied, replaceAll_run length hend, hpositive,
      replaceAll_mark_run, ← hpositive]
    exact congrArg (fun text => mark previous ++ (List.replicate _ '=' ++ text)) ih
  | case4 previous c t hvar hc ih =>
    have hend : (c :: replaceAll "==" "===" (replaceAll "var " "const " t)).head? ≠ some '=' := by
      simpa using hc
    have hdouble : ¬ "==".toList <+: c :: replaceAll "var " "const " t := fun hprefix =>
      hc (List.cons_prefix_cons.mp hprefix).1.symm
    rw [replaceAll_cons hvar, replaceAll_cons hdouble, replaceAll_mark previous hend]
    refine congrArg (mark previous ++ ·) ?_
    -- a `!` stays in front of what follows it, as the next mark
    by_cases hbang : c = '!'
    · subst hbang
      exact ih
    · have hnegate : ¬ "!=".toList <+: c :: replaceAll "==" "===" (replaceAll "var " "const " t) :=
        fun hprefix => hbang (List.cons_prefix_cons.mp hprefix).1.symm
      have hmark : mark (some c) = [] := if_neg (by simpa using hbang)
      rw [hmark] at ih
      rw [replaceAll_cons hnegate]
      exact congrArg (c :: ·) ih

/-- The first three passes are the sweep of the source. -/
theorem fused_eq_swept (s : List Char) :
    replaceAll "!=" "!==" (replaceAll "==" "===" (replaceAll "var " "const " s)) = swept s :=
  fused_eq_sweptBehind none s

/-! ## 4. The last two passes -/

/-- The characters that still belong to a call are passed over. -/
theorem dropCallsSkipping_eq_drop (skip : Nat) (s : List Char) :
    dropCallsSkipping skip s = dropCallsSkipping 0 (s.drop skip) := by
  induction s generalizing skip with
  | nil => simp [dropCallsSkipping]
  | cons c t ih =>
    cases skip with
    | zero => rfl
    | succ skip => exact ih skip

theorem drop_length_takeWhile (p : Char → Bool) (s : List Char) :
    s.drop (s.takeWhile p).length = s.dropWhile p := by
  have hsplit : s.takeWhile p ++ s.dropWhile p = s := List.takeWhile_append_dropWhile
  calc s.drop (s.takeWhile p).length
      = (s.takeWhile p ++ s.dropWhile p).drop (s.takeWhile p).length := by rw [hsplit]
    _ = s.dropWhile p := List.drop_left

theorem drop_semicolon (s : List Char) :
    s.drop (if s.head? = some ';' then 1 else 0) = behindSemicolon s := by
  cases s with
  | nil => rfl
  | cons c t =>
    by_cases hc : c = ';'
    · subst hc
      rfl
    · simp [behindSemicolon, hc]

/-- What follows the inside of a call, up to the closing parenthesis. -/
theorem drop_inside (s : List Char) :
    s.drop (callHead.length + ((s.drop callHead.length).takeWhile (· != ')')).length)
      = (s.drop callHead.length).dropWhile (· != ')') := by
  rw [← List.drop_drop, drop_length_takeWhile]

/-- A call is found where one starts, and what follows it is what stands behind it. -/
theorem callLength?_of_startsCall {s : List Char} (h : StartsCall s) :
    ∃ length, callLength? s = some (length + 1) ∧ s.drop (length + 1) = behindCall s := by
  obtain ⟨hhead, hclosed⟩ := h
  have hbegins : begins s callHead = true := List.isPrefixOf_iff_prefix.mpr hhead
  cases hclosing : (s.drop callHead.length).dropWhile (· != ')') with
  | nil => exact absurd (List.dropWhile_eq_nil_iff.mp hclosing ')' hclosed) (by simp)
  | cons closing behind =>
    have hinside := drop_inside s
    rw [hclosing] at hinside
    rw [callLength?, if_pos hbegins]
    simp only [hinside]
    generalize hupTo : callHead.length + _ = upTo at hinside ⊢
    generalize hsemicolon : (if behind.head? = some ';' then 1 else 0) = semicolon
    generalize hblanks : ((behind.drop semicolon).takeWhile isBlank).length = blanks
    have hlength : upTo + 1 + semicolon + blanks = upTo + semicolon + blanks + 1 := by omega
    refine ⟨upTo + semicolon + blanks, congrArg some hlength, ?_⟩
    rw [← hlength]
    calc s.drop (upTo + 1 + semicolon + blanks)
        = (((s.drop upTo).drop 1).drop semicolon).drop blanks := by simp only [List.drop_drop]
      _ = (behind.drop semicolon).drop blanks := by rw [hinside, List.drop_succ_cons, List.drop_zero]
      _ = (behindSemicolon behind).dropWhile isBlank := by
          rw [← hblanks, drop_length_takeWhile, ← hsemicolon, drop_semicolon]
      _ = behindCall s := by rw [behindCall, hclosing, List.drop_succ_cons, List.drop_zero]

theorem callLength?_eq_none {s : List Char} (h : ¬ StartsCall s) : callLength? s = none := by
  rw [callLength?]
  split
  · rename_i hbegins
    have hopen : ')' ∉ s.drop callHead.length := fun hclosed =>
      h ⟨List.isPrefixOf_iff_prefix.mp hbegins, hclosed⟩
    have hnil : (s.drop callHead.length).dropWhile (· != ')') = [] :=
      List.dropWhile_eq_nil_iff.mpr fun c hc => by
        simpa using fun he : c = ')' => hopen (he ▸ hc)
    simp only [drop_inside, hnil]
  · rfl

/-- **The fourth pass cuts calls out.** -/
theorem dropCalls_eq_withoutCalls (s : List Char) : dropCalls s = withoutCalls s := by
  unfold dropCalls
  fun_induction withoutCalls s with
  | case1 => rfl
  | case2 c t hcall ih =>
    obtain ⟨length, hlength, hbehind⟩ := callLength?_of_startsCall hcall
    rw [dropCallsSkipping, hlength]
    simp only [Nat.add_sub_cancel]
    rw [dropCallsSkipping_eq_drop, ← ih, ← hbehind, List.drop_succ_cons]
  | case3 c t hcall ih =>
    rw [dropCallsSkipping, callLength?_eq_none hcall, ih]

/-- The last pass puts a space behind `function`. -/
theorem replaceAll_function (s : List Char) :
    replaceAll "function(" "function (" s = spaced s := by
  fun_induction spaced s with
  | case1 => rfl
  | case2 c t hprefix ih =>
    obtain ⟨rest, hrest⟩ := hprefix
    have hdrop : t.drop 8 = rest := by
      have := congrArg (List.drop 9) hrest
      simpa using this.symm
    rw [hdrop] at ih ⊢
    rw [← hrest, replaceAll_append (by decide), ih]
  | case3 c t hprefix ih => rw [replaceAll_cons hprefix, ih]

/-! ## 5. The whole rewrite -/

/-- **The rewrite is three scans**: the sweep of the source, the cutting out of calls, and a space
behind every `function`. -/
theorem rewrite_eq_scan (code : String) :
    rewrite code = String.ofList (spaced (withoutCalls (swept code.toList))) := by
  rw [rewrite, rewrite_eq_comp, fused_eq_swept, dropCalls_eq_withoutCalls, replaceAll_function]

end Critique.Rewrite
