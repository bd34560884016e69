/-
# Texts that a rewrite leaves alone

A substitution makes a text longer and a call that is dropped makes it shorter, so the length alone
does not tell that a text which comes out as it went in was never touched.  Two counts together do.

* **Closing parentheses.**  No substitution takes one out or puts one in, and every call that is
  dropped takes one along.  So if as many come out as went in, no call was dropped, and there was
  none (`callFree_of_count`).
* **Characters.**  Without the pass that drops calls the four substitutions are left, and each puts
  in more than it takes out.  So if the text comes out no longer, none of the four pieces occurred
  (`substituted_eq_self_iff`).

The order of the two matters: the second count says nothing before the first has ruled calls out.

* `withoutCalls_eq_self` and `callFree_of_count`: texts without calls, and how they are recognized;
* `has_eq_false_of_length`: a text that a growing replacement makes no longer lacks the piece;
* `rewrite_eq_self_iff`: the rewrite of a source is the source if and only if there is nothing in it
  to rewrite.
-/
import Critique.Proofs.Rewrite.Calls

namespace Critique.Rewrite

open Text

variable {old new : String} {s t : List Char}

/-! ## 1. Texts without calls -/

/-- Whether no call starts in a text. -/
def CallFree (s : List Char) : Prop :=
  ∀ t, t <:+ s → ¬ StartsCall t

theorem CallFree.tail {c : Char} (h : CallFree (c :: t)) : CallFree t :=
  fun u hu => h u (hu.trans (List.suffix_cons c t))

/-- There is no call where no closing parenthesis follows a head. -/
theorem callFree_iff :
    CallFree s ↔ ¬ ∃ front rest, s = front ++ (callHead.toList ++ rest) ∧ ')' ∈ rest := by
  constructor
  · rintro h ⟨front, rest, rfl, hclosed⟩
    refine h _ (List.suffix_append _ _) ⟨List.prefix_append _ _, ?_⟩
    rwa [drop_callHead]
  · rintro h t ⟨front, rfl⟩ ⟨⟨rest, rfl⟩, hclosed⟩
    rw [drop_callHead] at hclosed
    exact h ⟨front, rest, rfl, hclosed⟩

/-- Nothing is cut out of a text without calls. -/
theorem withoutCalls_eq_self (h : CallFree s) : withoutCalls s = s := by
  induction s with
  | nil => exact withoutCalls_nil
  | cons c t ih => rw [withoutCalls_cons (h _ (List.suffix_refl _)), ih h.tail]

/-! ## 2. Closing parentheses -/

/-- A character that is in neither piece stands in the text as often as before. -/
theorem count_replaceAll (hne : old ≠ "") {x : Char} (hold : x ∉ old.toList)
    (hnew : x ∉ new.toList) (s : List Char) : (replaceAll old new s).count x = s.count x := by
  have hnone : ∀ piece : List Char, x ∉ piece → piece.filter (· == x) = [] := by
    intro piece hpiece
    refine List.filter_eq_nil_iff.mpr fun c hc he => hpiece ?_
    rwa [← beq_iff_eq.mp he]
  rw [List.count_eq_length_filter, List.count_eq_length_filter,
    filter_replaceAll hne ((hnone _ hnew).trans (hnone _ hold).symm)]

/-- **A call has a closing parenthesis of its own**, beside those that stand behind it. -/
theorem count_behindCall_lt (h : StartsCall s) : (behindCall s).count ')' < s.count ')' := by
  obtain ⟨front, rest, rfl, hfront⟩ := startsCall_iff.mp h
  obtain ⟨taken, htaken, -⟩ := exists_append_behind rest
  have hrest : rest.count ')' =
      taken.count ')' + ((behindSemicolon rest).dropWhile isBlank).count ')' := by
    rw [← List.count_append, ← htaken]
  rw [behindCall_eq hfront, List.count_append, List.count_append, List.count_cons_self, hrest]
  omega

/-- Cutting calls out adds no closing parenthesis. -/
theorem count_withoutCalls_le (s : List Char) : (withoutCalls s).count ')' ≤ s.count ')' := by
  fun_induction withoutCalls s with
  | case1 => exact Nat.le_refl _
  | case2 c t hcall ih => exact ih.trans (count_behindCall_lt hcall).le
  | case3 c t hcall ih =>
    rw [List.count_cons, List.count_cons]
    exact Nat.add_le_add_right ih _

/-- **A text that loses no closing parenthesis has no call.** -/
theorem callFree_of_count (h : (withoutCalls s).count ')' = s.count ')') : CallFree s := by
  induction s with
  | nil =>
    intro t ht hcall
    rw [List.suffix_nil.mp ht] at hcall
    exact absurd hcall (by decide)
  | cons c t ih =>
    -- a call in front would leave fewer of them, whatever becomes of the rest
    have hfirst : ¬ StartsCall (c :: t) := by
      intro hcall
      rw [withoutCalls_call hcall] at h
      have hrest := count_withoutCalls_le (behindCall (c :: t))
      have hlost := count_behindCall_lt hcall
      omega
    rw [withoutCalls_cons hfirst, List.count_cons, List.count_cons] at h
    intro u hu
    rcases List.suffix_cons_iff.mp hu with rfl | hu
    · exact hfirst
    · exact ih (Nat.add_right_cancel h) u hu

/-! ## 3. Characters -/

/-- **A text that a growing replacement makes no longer lacks the piece.** -/
theorem has_eq_false_of_length (hne : old ≠ "") (hgrows : old.toList.length < new.toList.length)
    (h : (replaceAll old new s).length ≤ s.length) : has s old = false := by
  induction s using replaceAll_induction hne with
  | nil =>
    rw [has, occurs, List.isEmpty_eq_false_iff]
    exact fun hnil => hne (String.toList_eq_nil_iff.mp hnil)
  | occurrence rest _ =>
    have hrest := length_le_replaceAll hne hgrows.le rest
    rw [replaceAll_append hne, List.length_append, List.length_append] at h
    omega
  | copy c rest hcopy ih =>
    rw [replaceAll_cons hcopy, List.length_cons, List.length_cons] at h
    have hrest : occurs old.toList rest = false := ih (Nat.le_of_succ_le_succ h)
    have hbegins : old.toList.isPrefixOf (c :: rest) = false := by
      rwa [← Bool.not_eq_true, List.isPrefixOf_iff_prefix]
    rw [has, occurs, hbegins, hrest]
    rfl

/-- So does one in front of others that make nothing shorter, if nothing has changed in the end. -/
theorem has_eq_false_of_comp (hne : old ≠ "") (hgrows : old.toList.length < new.toList.length)
    {rest : List Char → List Char} (hrest : ∀ t, t.length ≤ (rest t).length)
    (h : rest (replaceAll old new s) = s) : has s old = false ∧ rest s = s := by
  have hnone : has s old = false :=
    has_eq_false_of_length hne hgrows ((hrest _).trans (congrArg List.length h).le)
  rw [replaceAll_eq_self hnone] at h
  exact ⟨hnone, h⟩

/-- What the substitutions take out. -/
def substitutedPieces : List String := ["var ", "==", "!=", "function("]

/-- The sweep leaves a text alone in which it has nothing to take out. -/
theorem swept_eq_self (h : ∀ piece ∈ substitutedPieces, has s piece = false) : swept s = s := by
  rw [← fused_eq_swept, replaceAll_eq_self (h "var " (by decide)),
    replaceAll_eq_self (h "==" (by decide)), replaceAll_eq_self (h "!=" (by decide))]

/-- **The substitutions leave a text alone** if and only if none of their pieces occurs. -/
theorem substituted_eq_self_iff :
    substituted s = s ↔ ∀ piece ∈ substitutedPieces, has s piece = false := by
  constructor
  · intro h
    have hlast : ∀ t : List Char, t.length ≤ (replaceAll "function(" "function (" t).length :=
      length_le_replaceAll (by decide) (by decide)
    have hthird : ∀ t : List Char,
        t.length ≤ (replaceAll "function(" "function (" (replaceAll "!=" "!==" t)).length :=
      fun t => (length_le_replaceAll (by decide) (by decide) t).trans (hlast _)
    have hsecond : ∀ t : List Char, t.length ≤ (replaceAll "function(" "function ("
        (replaceAll "!=" "!==" (replaceAll "==" "===" t))).length :=
      fun t => (length_le_replaceAll (by decide) (by decide) t).trans (hthird _)
    -- from the first substitution on, each finds the source as it was
    obtain ⟨hdeclaration, h⟩ := has_eq_false_of_comp (by decide) (by decide) hsecond h
    obtain ⟨hequal, h⟩ := has_eq_false_of_comp (by decide) (by decide) hthird h
    obtain ⟨hunequal, h⟩ := has_eq_false_of_comp (by decide) (by decide) hlast h
    have hfunction := has_eq_false_of_length (by decide) (by decide) (congrArg List.length h).le
    intro piece hpiece
    simp only [substitutedPieces, List.mem_cons, List.not_mem_nil, or_false] at hpiece
    rcases hpiece with rfl | rfl | rfl | rfl
    · exact hdeclaration
    · exact hequal
    · exact hunequal
    · exact hfunction
  · intro h
    rw [substituted_eq, swept_eq_self h, replaceAll_eq_self (h "function(" (by decide))]

/-! ## 4. The whole rewrite -/

/-- The substitutions leave as many closing parentheses as there were. -/
theorem count_swept (s : List Char) : (swept s).count ')' = s.count ')' := by
  rw [← fused_eq_swept, count_replaceAll (by decide) (by decide) (by decide),
    count_replaceAll (by decide) (by decide) (by decide),
    count_replaceAll (by decide) (by decide) (by decide)]

/-- A rewrite that loses no closing parenthesis drops no call. -/
theorem callFree_of_rewriteChars (h : (rewriteChars s).count ')' = s.count ')') :
    CallFree (swept s) := by
  rw [rewriteChars_eq_spaced, ← replaceAll_function,
    count_replaceAll (by decide) (by decide) (by decide)] at h
  exact callFree_of_count (h.trans (count_swept s).symm)

/-- Where no call is dropped, the rewrite is the four substitutions. -/
theorem rewriteChars_of_callFree (h : CallFree (swept s)) : rewriteChars s = substituted s := by
  rw [rewriteChars_eq_spaced, withoutCalls_eq_self h, ← replaceAll_function, substituted_eq]

/-- A text is left alone if and only if it has neither a piece to substitute nor a call. -/
theorem rewriteChars_eq_self_iff :
    rewriteChars s = s ↔ (∀ piece ∈ substitutedPieces, has s piece = false) ∧ CallFree s := by
  constructor
  · intro h
    have hfree : CallFree (swept s) := callFree_of_rewriteChars (by rw [h])
    have hpieces : ∀ piece ∈ substitutedPieces, has s piece = false := by
      rwa [← substituted_eq_self_iff, ← rewriteChars_of_callFree hfree]
    rw [swept_eq_self hpieces] at hfree
    exact ⟨hpieces, hfree⟩
  · rintro ⟨hpieces, hfree⟩
    rw [← swept_eq_self hpieces] at hfree
    rw [rewriteChars_of_callFree hfree, substituted_eq_self_iff.mpr hpieces]

/-- **The rewrite of a source is the source** if and only if it holds none of `var `, `==`, `!=` and
`function(`, and no head of a call with a closing parenthesis somewhere behind it.  What the
substitutions add never makes up for what the calls take away. -/
theorem rewrite_eq_self_iff (code : String) :
    rewrite code = code ↔
      (∀ piece ∈ ["var ", "==", "!=", "function("], has code.toList piece = false) ∧
        ¬ ∃ front rest, code.toList = front ++ (callHead.toList ++ rest) ∧ ')' ∈ rest := by
  have hchars : rewrite code = code ↔ rewriteChars code.toList = code.toList := by
    constructor
    · intro h
      have htext := congrArg String.toList h
      rwa [rewrite, String.toList_ofList] at htext
    · intro h
      rw [rewrite, h, String.ofList_toList]
  rw [hchars, rewriteChars_eq_self_iff, callFree_iff]
  exact Iff.rfl

/-- A text that comes out as long as it went in, and is not what it was. -/
example : rewriteChars ("console.log()".toList ++ List.replicate 26 '=') = List.replicate 39 '=' := by
  decide +kernel

end Critique.Rewrite
