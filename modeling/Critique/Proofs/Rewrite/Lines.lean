/-
# Lines under a rewrite

A call that is dropped takes all blanks behind it along, and the end of its line is one of them.
Where the call is alone on its line the line goes, as it should.  Where something else stands in
front of it, the next line with text is pulled up behind that, and if it was a comment the next line
is one from then on: `lines_merged` is such a source.

What a rewrite says is what the rewrites of its lines say, each on its own, exactly if no line with
text that ends in a call has a line with text behind it (`texts_withoutCalls_iff`).  In one direction
the lines that are pulled up have nothing to lose (`shown_of_unmerged`).  In the other one, every line
with text that is pulled up is missing from the count, and nothing behind it can make up for that
(`length_shown_le`); both inductions are on the lines of the text, where the blanks that went with a
call may be passed over.

* `shown_of_unmerged` and `unmerged_of_length`: the two directions, for a text without substitutions;
* `texts_withoutCalls_iff`: exactly when no two lines are merged;
* `lines_apart_iff`: the same of a rewrite, and that its lines without calls are all there.
-/
import Critique.Proofs.Rewrite.LineEnds

namespace Critique.Rewrite

open Text

variable {c : Char} {s t line : List Char}

/-! ## 1. What a rewrite says -/

/-- What is said by a text that spaces are still put into. -/
def shown (s : List Char) : List (List Char) :=
  texts (spaced s)

theorem spaced_append_cons {x : Char} (h : x ∉ "function(".toList) (front rest : List Char) :
    spaced (front ++ x :: rest) = spaced front ++ x :: spaced rest := by
  simp only [← replaceAll_function]
  exact replaceAll_append_cons (by decide) h front rest

theorem notMem_function_of_isBlank {x : Char} (h : isBlank x = true) : x ∉ "function(".toList := by
  intro hmem
  have hword : "function(".toList.all (!isBlank ·) = true := by decide
  have hx := List.all_eq_true.mp hword x hmem
  rw [h] at hx
  exact absurd hx (by decide)

theorem newline_notMem_spaced (h : '\n' ∉ line) : '\n' ∉ spaced line := by
  rw [← replaceAll_function]
  intro hmem
  rcases mem_replaceAll (by decide) hmem with hmem | hmem
  · exact absurd hmem (by decide)
  · exact h hmem

theorem spaced_blank_append (h : Blank s) (t : List Char) : spaced (s ++ t) = s ++ spaced t := by
  rw [← replaceAll_function, ← replaceAll_function]
  refine replaceAll_copy_append (by decide) (fun c hc => ?_) t
  intro hhead
  exact notMem_function_of_isBlank (h c hc) (List.mem_of_head? hhead)

theorem spaced_of_blank (h : Blank s) : spaced s = s := by
  have hself := spaced_blank_append h []
  rw [List.append_nil] at hself
  rw [hself, ← replaceAll_function, replaceAll_nil, List.append_nil]

theorem spaced_append_blank (h : Blank t) (s : List Char) : spaced (s ++ t) = spaced s ++ t := by
  cases t with
  | nil => rw [List.append_nil, List.append_nil]
  | cons x t =>
    obtain ⟨hx, ht⟩ := blank_cons.mp h
    rw [spaced_append_cons (notMem_function_of_isBlank hx), spaced_of_blank ht]

/-- A text is blank if it is so with spaces put into it. -/
theorem blank_spaced : Blank (spaced s) ↔ Blank s := by
  refine ⟨fun h => ?_, fun h => by rwa [spaced_of_blank h]⟩
  rw [← replaceAll_function] at h
  exact blank_of_replaceAll (by decide) (by decide) h

theorem shown_append_line (h : '\n' ∉ line) (t : List Char) :
    shown (line ++ '\n' :: t) = shown line ++ shown t := by
  rw [shown, spaced_append_cons (by decide), texts_append_line (newline_notMem_spaced h)]
  rfl

theorem shown_blank_append (h : Blank s) (t : List Char) : shown (s ++ t) = shown t := by
  rw [shown, spaced_blank_append h, texts_blank_append h]
  rfl

theorem shown_append_blank (hline : '\n' ∉ line) (h : Blank t) : shown (line ++ t) = shown line := by
  rw [shown, spaced_append_blank h, texts_append_blank (newline_notMem_spaced hline) h]
  rfl

theorem shown_eq_nil_iff (h : '\n' ∉ line) : shown line = [] ↔ Blank line := by
  rw [shown, texts_eq_nil_iff (newline_notMem_spaced h), blank_spaced]

theorem shown_nil : shown [] = [] :=
  (shown_eq_nil_iff List.not_mem_nil).mpr blank_nil

theorem length_shown_le_one (h : '\n' ∉ line) : (shown line).length ≤ 1 :=
  length_texts_le_one (newline_notMem_spaced h)

/-- What the lines of a text say, each rewritten on its own. -/
def rows (s : List Char) : List (List Char) :=
  (splitLines s).flatMap fun line => shown (withoutCalls line)

theorem rows_of_notMem (h : '\n' ∉ line) : rows line = shown (withoutCalls line) := by
  rw [rows, splitLines_of_notMem h, List.flatMap_singleton]

theorem rows_append_line (h : '\n' ∉ line) (t : List Char) :
    rows (line ++ '\n' :: t) = shown (withoutCalls line) ++ rows t := by
  rw [rows, splitLines_append h, List.flatMap_cons]
  rfl

/-! ## 2. Merged lines -/

/-- Whether all heads of calls are closed on their lines. -/
def Closed (s : List Char) : Prop :=
  ∀ line ∈ splitLines s, ClosesCalls line

/-- Whether two lines are kept apart, the first one of which comes before the second: no call ends
the first one, or one of them has no text but its calls. -/
def KeptApart (a b : List Char) : Prop :=
  EndsInCall a → Blank (withoutCalls a) ∨ Blank (withoutCalls b)

/-- Whether no line that ends in a call and has more text has a line with text behind it. -/
def Unmerged (s : List Char) : Prop :=
  (splitLines s).Pairwise KeptApart

theorem closed_append_line (h : '\n' ∉ line) :
    Closed (line ++ '\n' :: t) ↔ ClosesCalls line ∧ Closed t := by
  rw [Closed, splitLines_append h, List.forall_mem_cons]
  rfl

theorem unmerged_append_line (h : '\n' ∉ line) :
    Unmerged (line ++ '\n' :: t) ↔ (∀ b ∈ splitLines t, KeptApart line b) ∧ Unmerged t := by
  rw [Unmerged, splitLines_append h, List.pairwise_cons]
  rfl

/-- A blank in front of a line matters neither for its calls nor for what it says. -/
theorem cons_blank_line (hc : isBlank c = true) (line : List Char) :
    (ClosesCalls (c :: line) ↔ ClosesCalls line) ∧ (∀ b, KeptApart (c :: line) b ↔ KeptApart line b) ∧
      shown (withoutCalls (c :: line)) = shown (withoutCalls line) := by
  have hcopied := not_startsCall (ne_of_isBlank hc) line
  have hblank : Blank (withoutCalls (c :: line)) ↔ Blank (withoutCalls line) := by
    rw [withoutCalls_cons hcopied, blank_cons, and_iff_right hc]
  refine ⟨closesCalls_cons (ne_of_isBlank hc), fun b => ?_, ?_⟩
  · rw [KeptApart, KeptApart, endsInCall_cons hcopied, hblank]
  · rw [withoutCalls_cons hcopied]
    exact shown_blank_append (s := [c]) (by simpa using hc) _

/-- A blank in front of a text matters neither for its calls, nor for its lines, nor for what they
say. -/
theorem cons_blank_invariant (hc : isBlank c = true) (s : List Char) :
    (Closed (c :: s) ↔ Closed s) ∧ (Unmerged (c :: s) ↔ Unmerged s) ∧ rows (c :: s) = rows s := by
  by_cases hnewline : c = '\n'
  · subst hnewline
    have hempty : '\n' ∉ ([] : List Char) := List.not_mem_nil
    have hcloses : ClosesCalls [] := by decide
    have hkept : ∀ b ∈ splitLines s, KeptApart [] b := fun b _ hends =>
      absurd hends not_endsInCall_nil
    refine ⟨(closed_append_line hempty).trans (and_iff_right hcloses),
      (unmerged_append_line hempty).trans (and_iff_right hkept),
      (rows_append_line hempty s).trans ?_⟩
    rw [withoutCalls_nil, shown_nil, List.nil_append]
  · obtain ⟨line, rest, hlines, hlonger⟩ := splitLines_cons hnewline s
    obtain ⟨hcloses, hkept, hshown⟩ := cons_blank_line hc line
    refine ⟨?_, ?_, ?_⟩
    · rw [Closed, Closed, hlines, hlonger, List.forall_mem_cons, List.forall_mem_cons, hcloses]
    · rw [Unmerged, Unmerged, hlines, hlonger, List.pairwise_cons, List.pairwise_cons]
      simp only [hkept]
    · rw [rows, rows, hlines, hlonger, List.flatMap_cons, List.flatMap_cons, hshown]

/-- Blanks in front of a text matter neither for its calls, nor for its lines, nor for what they
say. -/
theorem dropWhile_invariant (s : List Char) :
    (Closed (s.dropWhile isBlank) ↔ Closed s) ∧ (Unmerged (s.dropWhile isBlank) ↔ Unmerged s) ∧
      rows (s.dropWhile isBlank) = rows s := by
  induction s with
  | nil => exact ⟨Iff.rfl, Iff.rfl, rfl⟩
  | cons c s ih =>
    by_cases hc : isBlank c = true
    · obtain ⟨hclosed, hunmerged, hrows⟩ := cons_blank_invariant hc s
      rw [List.dropWhile_cons_of_pos hc, hclosed, hunmerged, hrows]
      exact ih
    · rw [List.dropWhile_cons_of_neg hc]
      exact ⟨Iff.rfl, Iff.rfl, rfl⟩

/-- Without the blanks in front of it a text says the same. -/
theorem shown_withoutCalls_dropWhile (s : List Char) :
    shown (withoutCalls (s.dropWhile isBlank)) = shown (withoutCalls s) := by
  rw [← takeWhile_append_withoutCalls s, shown_blank_append (blank_takeWhile s)]

/-- **Lines that say nothing leave nothing.** -/
theorem blank_of_rows (closed : Closed s) (h : rows s = []) : Blank (withoutCalls s) := by
  induction s using lines_induction with
  | last line hline =>
    rw [rows_of_notMem hline] at h
    exact (shown_eq_nil_iff (newline_notMem_withoutCalls hline)).mp h
  | line line t hline ih =>
    obtain ⟨hcloses, hclosed⟩ := (closed_append_line hline).mp closed
    rw [rows_append_line hline, List.append_eq_nil_iff,
      shown_eq_nil_iff (newline_notMem_withoutCalls hline)] at h
    have hrest := ih hclosed h.2
    by_cases hends : EndsInCall line
    · rw [← takeWhile_append_withoutCalls t, blank_append] at hrest
      rw [withoutCalls_lastCall hcloses hends, blank_append]
      exact ⟨h.1, hrest.2⟩
    · rw [withoutCalls_line hcloses hends, blank_append, blank_cons]
      exact ⟨h.1, rfl, hrest⟩

/-- What the lines of a text say is nothing if each of them is blank without its calls. -/
theorem rows_eq_nil_iff : rows s = [] ↔ ∀ line ∈ splitLines s, Blank (withoutCalls line) := by
  induction s using lines_induction with
  | last line hline =>
    rw [rows_of_notMem hline, splitLines_of_notMem hline, List.forall_mem_singleton,
      shown_eq_nil_iff (newline_notMem_withoutCalls hline)]
  | line line t hline ih =>
    rw [rows_append_line hline, splitLines_append hline, List.forall_mem_cons,
      List.append_eq_nil_iff, shown_eq_nil_iff (newline_notMem_withoutCalls hline), ih]

/-- **Lines that are kept apart** all say what they say on their own. -/
theorem shown_of_unmerged (closed : Closed s) (h : Unmerged s) : shown (withoutCalls s) = rows s := by
  induction s using lines_induction_skipping with
  | last line hline => rw [rows_of_notMem hline]
  | line line t hline ih ihskipped =>
    obtain ⟨hcloses, hclosed⟩ := (closed_append_line hline).mp closed
    obtain ⟨hkept, hunmerged⟩ := (unmerged_append_line hline).mp h
    obtain ⟨hskipped, hskipped', hrows⟩ := dropWhile_invariant t
    have hnewline := newline_notMem_withoutCalls hline
    rw [rows_append_line hline]
    by_cases hends : EndsInCall line
    · rw [withoutCalls_lastCall hcloses hends]
      by_cases hblank : Blank (withoutCalls line)
      · rw [shown_blank_append hblank, (shown_eq_nil_iff hnewline).mpr hblank, List.nil_append,
          ihskipped (hskipped.mpr hclosed) (hskipped'.mpr hunmerged), hrows]
      · -- nothing that is pulled up behind the line says anything
        have hnothing : rows t = [] :=
          rows_eq_nil_iff.mpr fun b hb => (hkept b hb hends).resolve_left hblank
        have hrest := blank_of_rows (hskipped.mpr hclosed) (hrows.trans hnothing)
        rw [shown_append_blank hnewline hrest, hnothing, List.append_nil]
    · rw [withoutCalls_line hcloses hends, shown_append_line hnewline, ih hclosed hunmerged]

theorem length_shown_append_le {a b : List Char} (ha : '\n' ∉ a) (hb : '\n' ∉ b) :
    (shown (a ++ b)).length ≤ max (shown a).length (shown b).length := by
  have hwhole : '\n' ∉ a ++ b := by simp [ha, hb]
  have hone := length_shown_le_one hwhole
  by_cases hblank : Blank a ∧ Blank b
  · rw [(shown_eq_nil_iff hwhole).mpr (blank_append.mpr hblank)]
    exact Nat.zero_le _
  · rw [← shown_eq_nil_iff ha, ← shown_eq_nil_iff hb, ← List.length_eq_zero_iff,
      ← List.length_eq_zero_iff] at hblank
    omega

/-- A line with blanks only in it is passed over by a text that does not begin with one. -/
theorem not_blank_of_dropWhile {s rest : List Char}
    (h : (s ++ '\n' :: rest).dropWhile isBlank = s ++ '\n' :: rest) : ¬ Blank s := by
  intro hblank
  rw [List.dropWhile_append_of_pos hblank, List.dropWhile_cons_of_pos rfl] at h
  have hshorter := (List.dropWhile_sublist (p := isBlank) (l := rest)).length_le
  rw [h, List.length_append, List.length_cons] at hshorter
  omega

/-- **Merged lines say less**: behind a text on its line, no more is said than by that text, or by
the lines on their own. -/
theorem length_shown_le (closed : Closed s) {front : List Char} (hfront : '\n' ∉ front)
    (hs : s.dropWhile isBlank = s) :
    (shown (front ++ withoutCalls s)).length ≤ max (shown front).length (rows s).length := by
  induction s using lines_induction_skipping generalizing front with
  | last line hline =>
    rw [rows_of_notMem hline]
    exact length_shown_append_le hfront (newline_notMem_withoutCalls hline)
  | line line t hline _ ih =>
    obtain ⟨hcloses, hclosed⟩ := (closed_append_line hline).mp closed
    obtain ⟨hskipped, -, hrows⟩ := dropWhile_invariant t
    have hnewline := newline_notMem_withoutCalls hline
    have hbehind := length_shown_append_le hfront hnewline
    have hwhole : '\n' ∉ front ++ withoutCalls line := by simp [hfront, hnewline]
    have hmerged {front : List Char} (hfront : '\n' ∉ front) :=
      ih (hskipped.mpr hclosed) hfront (List.dropWhile_idempotent _ _)
    rw [rows_append_line hline, List.length_append, ← hrows]
    by_cases hends : EndsInCall line
    · have hlonger := hmerged hwhole
      rw [withoutCalls_lastCall hcloses hends, ← List.append_assoc]
      omega
    · -- the line does not begin with a blank, and so it says something
      have hsays : (shown (withoutCalls line)).length ≠ 0 := by
        rw [ne_eq, List.length_eq_zero_iff, shown_eq_nil_iff hnewline]
        exact fun hblank => not_blank_of_dropWhile hs (blank_of_withoutCalls hends hblank)
      have hrest := hmerged (List.not_mem_nil : '\n' ∉ [])
      have hone := length_shown_le_one hwhole
      rw [List.nil_append, shown_withoutCalls_dropWhile, shown_nil, List.length_nil,
        Nat.zero_max] at hrest
      rw [withoutCalls_line hcloses hends, ← List.append_assoc, shown_append_line hwhole,
        List.length_append]
      omega

/-- A rewrite says no more than its lines on their own. -/
theorem length_shown_le_rows (closed : Closed s) :
    (shown (withoutCalls s)).length ≤ (rows s).length := by
  obtain ⟨hskipped, -, hrows⟩ := dropWhile_invariant s
  have h := length_shown_le (hskipped.mpr closed) (List.not_mem_nil : '\n' ∉ [])
    (List.dropWhile_idempotent _ _)
  rwa [List.nil_append, shown_withoutCalls_dropWhile, hrows, shown_nil, List.length_nil,
    Nat.zero_max] at h

/-- **If as much is said as by the lines on their own**, none of them were merged. -/
theorem unmerged_of_length (closed : Closed s)
    (h : (shown (withoutCalls s)).length = (rows s).length) : Unmerged s := by
  induction s using lines_induction_skipping with
  | last line hline =>
    rw [Unmerged, splitLines_of_notMem hline]
    exact List.pairwise_singleton _ _
  | line line t hline ih ihskipped =>
    obtain ⟨hcloses, hclosed⟩ := (closed_append_line hline).mp closed
    obtain ⟨hskipped, hskipped', hrows⟩ := dropWhile_invariant t
    have hnewline := newline_notMem_withoutCalls hline
    rw [rows_append_line hline, List.length_append] at h
    rw [unmerged_append_line hline]
    by_cases hends : EndsInCall line
    · rw [withoutCalls_lastCall hcloses hends] at h
      by_cases hblank : Blank (withoutCalls line)
      · rw [shown_blank_append hblank, (shown_eq_nil_iff hnewline).mpr hblank, List.length_nil,
          Nat.zero_add, ← hrows] at h
        exact ⟨fun _ _ _ => .inl hblank, hskipped'.mp (ihskipped (hskipped.mpr hclosed) h)⟩
      · -- what is pulled up behind the line says nothing, or it would be missing
        have hbound := length_shown_le (hskipped.mpr hclosed) hnewline
          (List.dropWhile_idempotent _ _)
        have hsays : (shown (withoutCalls line)).length ≠ 0 := by
          rwa [ne_eq, List.length_eq_zero_iff, shown_eq_nil_iff hnewline]
        have hone := length_shown_le_one hnewline
        rw [h, hrows] at hbound
        have hnone : (rows t).length = 0 := by omega
        have hnothing := rows_eq_nil_iff.mp (List.length_eq_zero_iff.mp hnone)
        have hkept (a : List Char) : ∀ b ∈ splitLines t, KeptApart a b :=
          fun b hb _ => .inr (hnothing b hb)
        exact ⟨hkept line, List.pairwise_of_forall_mem_list fun a _ b hb => hkept a b hb⟩
    · rw [withoutCalls_line hcloses hends, shown_append_line hnewline, List.length_append] at h
      have hbound := length_shown_le_rows hclosed
      exact ⟨fun _ _ hends' => absurd hends' hends, ih hclosed (by omega)⟩

/-- **Exactly when no lines are merged**, in a text without substitutions. -/
theorem texts_withoutCalls_iff (closed : Closed s) :
    shown (withoutCalls s) = rows s ↔ Unmerged s :=
  ⟨fun h => unmerged_of_length closed (congrArg List.length h), shown_of_unmerged closed⟩

/-! ## 3. The lines of a rewrite -/

/-- Whether the rewrite of a source keeps its lines apart: where a call ends a line, nothing is left
of that line, or nothing of any line behind it. -/
def LinesApart (s : List Char) : Prop :=
  (splitLines s).Pairwise fun a b =>
    EndsInCall a → Blank (rewriteChars a) ∨ Blank (rewriteChars b)

instance (s : List Char) : Decidable (LinesApart s) :=
  inferInstanceAs (Decidable ((splitLines s).Pairwise _))

theorem unmerged_swept : Unmerged (swept s) ↔ LinesApart s := by
  rw [Unmerged, LinesApart, splitLines_swept, List.pairwise_map]
  simp only [KeptApart, endsInCall_swept, rewriteChars_eq_spaced, blank_spaced]

theorem rows_swept :
    rows (swept s) = (splitLines s).flatMap fun line => texts (rewriteChars line) := by
  rw [rows, splitLines_swept, List.flatMap_map]
  simp only [shown, rewriteChars_eq_spaced]

/-- Parts that come one for one out of some entries of a list come in order out of all of it. -/
theorem map_filter_sublist_flatMap {α β : Type} {p : α → Bool} {f : α → β} {g : α → List β}
    {entries : List α} (h : ∀ a ∈ entries, p a = true → g a = [f a]) :
    ((entries.filter p).map f).Sublist (entries.flatMap g) := by
  induction entries with
  | nil => exact List.Sublist.refl _
  | cons a entries ih =>
    rw [List.forall_mem_cons] at h
    rw [List.flatMap_cons, List.filter_cons]
    split
    · rename_i ha
      rw [h.1 ha]
      exact (ih h.2).cons_cons (f a)
    · exact (ih h.2).trans (List.sublist_append_right _ _)

/-- **Exactly when a rewrite keeps lines apart**, for a source that closes every call on its line:
if no line that ends in a call and has more text is followed by a line with text.  Then the lines
that hold text and no calls are lines of the rewrite, after the substitutions and up to blanks around
them, in the order in which they were. -/
theorem lines_apart_iff {code : String}
    (closed : ∀ line ∈ splitLines code.toList, ClosesCalls line) :
    (texts (rewrite code).toList =
        (splitLines code.toList).flatMap (fun line => texts (rewriteChars line)) ↔
      LinesApart code.toList) ∧
    (LinesApart code.toList →
      (((splitLines code.toList).filter fun line => !has line callHead && !decide (Blank line)).map
          fun line => strip (substituted line)).Sublist
        ((splitLines (rewrite code).toList).map strip)) := by
  have hclosed : Closed (swept code.toList) := by
    rw [Closed, splitLines_swept, List.forall_mem_map]
    exact fun line hline => closesCalls_swept.mpr (closed line hline)
  have hiff := texts_withoutCalls_iff hclosed
  rw [unmerged_swept, rows_swept, shown, ← rewriteChars_eq_spaced] at hiff
  rw [rewrite, String.toList_ofList]
  refine ⟨hiff, fun hapart => ?_⟩
  have hsays : ∀ line ∈ splitLines code.toList,
      (!has line callHead && !decide (Blank line)) = true →
        texts (rewriteChars line) = [strip (substituted line)] := by
    intro line hline hplain
    rw [Bool.and_eq_true, Bool.not_eq_true', Bool.not_eq_true', decide_eq_false_iff_not] at hplain
    rw [rewriteChars_eq_substituted hplain.1, texts_of_notMem (newline_notMem_substituted
      (newline_notMem hline))]
    refine List.filter_cons_of_pos (decide_eq_true fun hnil => hplain.2 ?_)
    exact blank_of_substituted (strip_eq_nil_iff.mp hnil)
  have hsublist := map_filter_sublist_flatMap hsays
  rw [← hiff.mpr hapart] at hsublist
  exact hsublist.trans List.filter_sublist

/-- A line that is dropped with its call, and one that a call ends but nothing follows. -/
theorem lines_apart_iff_of_three :
    let code := "console.log(a);\n  var x = f(1);\nstop(); console.log(x)"
    (∀ line ∈ splitLines code.toList, ClosesCalls line) ∧ LinesApart code.toList ∧
      (((splitLines code.toList).filter fun line => !has line callHead && !decide (Blank line)).map
          fun line => strip (substituted line)).Sublist
        ((splitLines (rewrite code).toList).map strip) := by
  intro code
  have closed : ∀ line ∈ splitLines code.toList, ClosesCalls line := by decide +kernel
  have hapart : LinesApart code.toList := by decide +kernel
  exact ⟨closed, hapart, (lines_apart_iff closed).2 hapart⟩

/-- **A rewrite can merge lines**: behind a comment that ends in a call, the next line is part of the
comment. -/
theorem lines_merged :
    let code := "start(); // console.log('x');\nstop();"
    (∀ line ∈ splitLines code.toList, ClosesCalls line) ∧
      rewrite code = "start(); // stop();" ∧
      ¬ (((splitLines code.toList).filter fun line =>
            !has line callHead && !decide (Blank line)).map fun line => strip (substituted line)).Sublist
          ((splitLines (rewrite code).toList).map strip) := by
  decide +kernel

end Critique.Rewrite
