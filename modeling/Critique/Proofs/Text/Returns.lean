/-
# Carriage returns

A line ends in a line feed, or in a carriage return and a line feed.  `crlf` makes the second kind of
the first.  What is looked for in a text is never part of a line end (`Inline`), and so it is found in
the one text as often as in the other; what differs is that every line but the last has one character
more, and that character is a blank.

That a piece occurs in both texts or in neither is an instance of what is known about replacements.
Counting takes two facts more: a count is the sum of the counts on both sides of a character that is
not in the piece (`count_append_cons`), and a pattern that matches from neither character of a line
end has no more places to match from (`countWhere_crlf`).  That lower case keeps line ends holds
because a line feed is the lower case of nothing else, and because a letter never looks for its
neighbours across the end of a line (`lower_crlf`).

* `forall₂_splitLines_crlf`: the lines of both texts, in pairs;
* `has_crlf`, `count_crlf` and `countWhere_crlf`: what is found in the text as a whole;
* `has_return`, `count_return` and `strip_return`: what is found on a line;
* `replaceAll_crlf` and `lower_crlf`: replacements and lower case keep line ends.
-/
import Critique.Proofs.Text.Places
import Critique.Text.Case
import Mathlib.Data.List.Forall2

namespace Critique.Text

variable {c : Char} {line t : List Char}

/-! ## 1. Carriage returns -/

/-- The text with a carriage return in front of every line feed. -/
def crlf (s : List Char) : List Char :=
  replaceAll "\n" "\r\n" s

@[simp] theorem crlf_nil : crlf [] = [] := rfl

/-- Text without line feeds is copied. -/
theorem crlf_append (h : '\n' ∉ line) (t : List Char) : crlf (line ++ t) = line ++ crlf t := by
  refine replaceAll_copy_append (by decide) (fun c hc hhead => ?_) t
  rw [← Option.some.inj hhead] at hc
  exact h hc

theorem crlf_of_notMem (h : '\n' ∉ line) : crlf line = line := by
  have hself := crlf_append h []
  rwa [List.append_nil, crlf_nil, List.append_nil] at hself

theorem crlf_newline (t : List Char) : crlf ('\n' :: t) = '\r' :: '\n' :: crlf t :=
  replaceAll_append (by decide) t

theorem crlf_cons (h : c ≠ '\n') (t : List Char) : crlf (c :: t) = c :: crlf t :=
  crlf_append (by simpa using h.symm : '\n' ∉ [c]) t

/-- **A line gets a carriage return** in front of its end. -/
theorem crlf_append_line (h : '\n' ∉ line) (t : List Char) :
    crlf (line ++ '\n' :: t) = line ++ '\r' :: '\n' :: crlf t := by
  rw [crlf_append h, crlf_newline]

/-- The lines of a text with carriage returns, seen from the front. -/
theorem splitLines_crlf_append (h : '\n' ∉ line) (t : List Char) :
    splitLines (crlf (line ++ '\n' :: t)) = (line ++ ['\r']) :: splitLines (crlf t) := by
  have hended : '\n' ∉ line ++ ['\r'] := by simp [h]
  rw [crlf_append_line h, List.append_cons, splitLines_append hended]

/-- **The lines of both texts, in pairs**: the last line is the same, all others are one carriage
return longer. -/
theorem forall₂_splitLines_crlf {R : List Char → List Char → Prop} {s : List Char}
    (last : ∀ line, R line line)
    (ended : ∀ line ∈ (splitLines s).dropLast, R line (line ++ ['\r'])) :
    List.Forall₂ R (splitLines s) (splitLines (crlf s)) := by
  induction s using lines_induction with
  | last line hline =>
    rw [crlf_of_notMem hline, splitLines_of_notMem hline]
    exact .cons (last line) .nil
  | line line t hline ih =>
    have hne : splitLines t ≠ [] := parts_ne_nil '\n' t
    rw [splitLines_append hline, List.dropLast_cons_of_ne_nil hne, List.forall_mem_cons] at ended
    rw [splitLines_crlf_append hline, splitLines_append hline]
    exact .cons ended.1 (ih ended.2)

/-- Both texts have as many lines. -/
theorem length_splitLines_crlf (s : List Char) :
    (splitLines (crlf s)).length = (splitLines s).length :=
  (forall₂_splitLines_crlf (R := fun _ _ => True) (fun _ => trivial)
    fun _ _ => trivial).length_eq.symm

/-! ## 2. Pieces -/

/-- Whether a piece is looked for within lines: there is something to it, and none of it belongs to
the end of a line. -/
def Inline (piece : String) : Prop :=
  piece ≠ "" ∧ '\r' ∉ piece.toList ∧ '\n' ∉ piece.toList

instance (piece : String) : Decidable (Inline piece) := inferInstanceAs (Decidable (_ ∧ _ ∧ _))

variable {piece : String}

/-- Line ends have nothing in common with such a piece. -/
theorem Inline.spares (h : Inline piece) : Spares "\n" "\r\n" piece := by
  obtain ⟨hne, hreturn, hnewline⟩ := h
  have hpiece : piece.toList ≠ [] := fun hnil => hne (String.toList_eq_nil_iff.mp hnil)
  have hends : piece.toList.Disjoint "\r\n".toList := by
    simpa [List.disjoint_cons_right] using And.intro hreturn hnewline
  exact ⟨apart_of_disjoint hpiece (by decide) (List.disjoint_cons_right.mp hends).2,
    apart_of_disjoint hpiece (by decide) hends⟩

/-- **A piece is found** in the one text if it is found in the other. -/
theorem has_crlf (h : Inline piece) (s : List Char) : has (crlf s) piece = has s piece :=
  has_replaceAll h.spares (by decide) h.1 s

/-- Both texts begin with the same pieces. -/
theorem begins_crlf (h : Inline piece) (s : List Char) : begins (crlf s) piece = begins s piece := by
  rw [begins, begins, Bool.eq_iff_iff, List.isPrefixOf_iff_prefix, List.isPrefixOf_iff_prefix]
  constructor
  · exact prefix_of_prefix_replaceAll (by decide) h.spares.2.1
  · rintro ⟨rest, rfl⟩
    rw [crlf_append h.2.2]
    exact List.prefix_append _ _

/-- A text that begins with something else does not begin with the piece. -/
theorem begins_cons_eq_false (hne : piece ≠ "") {x : Char} (hx : x ∉ piece.toList)
    (t : List Char) : begins (x :: t) piece = false := by
  rw [begins, ← Bool.not_eq_true, List.isPrefixOf_iff_prefix]
  exact not_prefix_cons hne hx t

/-- A piece is found on a line with a carriage return if it is found on the line. -/
theorem has_return (h : Inline piece) (s : List Char) : has (s ++ ['\r']) piece = has s piece := by
  rw [has, has, Bool.eq_iff_iff, occurs_iff, occurs_iff, List.infix_concat_iff]
  refine ⟨fun hinfix => hinfix.elim (fun hsuffix => ?_) id, .inr⟩
  rcases List.suffix_concat_iff.mp hsuffix with hnil | ⟨front, hfront, -⟩
  · rw [hnil]
    exact List.nil_infix
  · exact absurd (hfront ▸ List.mem_append_right front (List.mem_singleton_self '\r')) h.2.1

/-- A carriage return is a blank at the end of its line. -/
theorem strip_return (s : List Char) : strip (s ++ ['\r']) = strip s :=
  strip_append_blank (by decide)

/-! ## 3. Counts -/

theorem countSkipping_append (needle skipped rest : List Char) :
    countSkipping needle skipped.length (skipped ++ rest) = countSkipping needle 0 rest := by
  induction skipped with
  | nil => rfl
  | cons c skipped ih => simpa [countSkipping] using ih

/-- Where the text begins with the piece, one is counted. -/
theorem count_append (h : piece ≠ "") (rest : List Char) :
    count piece.toList (piece.toList ++ rest) = count piece.toList rest + 1 := by
  cases hpiece : piece.toList with
  | nil => exact absurd (String.toList_eq_nil_iff.mp hpiece) h
  | cons c front =>
    have hbegins : (c :: front).isPrefixOf (c :: (front ++ rest)) = true :=
      List.isPrefixOf_iff_prefix.mpr (List.prefix_append (c :: front) rest)
    rw [count, List.cons_append, countSkipping, if_pos hbegins, List.length_cons,
      Nat.add_sub_cancel, countSkipping_append, count]

/-- Where the text does not begin with the piece, none is. -/
theorem count_cons {rest : List Char} (h : ¬ piece.toList <+: c :: rest) :
    count piece.toList (c :: rest) = count piece.toList rest := by
  rw [count, countSkipping, if_neg fun hbegins => h (List.isPrefixOf_iff_prefix.mp hbegins), count]

/-- **A count goes part by part**, at every character that is not in the piece. -/
theorem count_append_cons (hne : piece ≠ "") {x : Char} (hx : x ∉ piece.toList)
    (front rest : List Char) :
    count piece.toList (front ++ x :: rest) =
      count piece.toList front + count piece.toList rest := by
  induction front using replaceAll_induction hne with
  | nil =>
    rw [List.nil_append, count_cons (not_prefix_cons hne hx rest)]
    exact (Nat.zero_add _).symm
  | occurrence front ih =>
    rw [List.append_assoc, count_append hne, count_append hne, ih]
    omega
  | copy c front hcopy ih =>
    have hcopy' : ¬ piece.toList <+: c :: (front ++ x :: rest) := fun hbegins =>
      hcopy (prefix_of_prefix_append_cons hx (c :: front) hbegins)
    rw [List.cons_append, count_cons hcopy', ih, count_cons hcopy]

/-- **A piece is counted as often** in both texts. -/
theorem count_crlf (h : Inline piece) (s : List Char) :
    count piece.toList (crlf s) = count piece.toList s := by
  obtain ⟨hne, hreturn, hnewline⟩ := h
  induction s using lines_induction with
  | last line hline => rw [crlf_of_notMem hline]
  | line line t hline ih =>
    have hbehind : count piece.toList ('\n' :: crlf t) = count piece.toList (crlf t) :=
      (count_append_cons hne hnewline [] (crlf t)).trans (Nat.zero_add _)
    rw [crlf_append_line hline, count_append_cons hne hreturn, hbehind, ih,
      count_append_cons hne hnewline]

/-- A piece is counted as often on a line with a carriage return. -/
theorem count_return (h : Inline piece) (s : List Char) :
    count piece.toList (s ++ ['\r']) = count piece.toList s :=
  count_append_cons h.1 h.2.1 s []

/-- **A pattern matches from as many places** of both texts, if it matches from no line end and from
any other place alike. -/
theorem countWhere_crlf {p : List Char → Bool} (hreturn : ∀ t, p ('\r' :: t) = false)
    (hnewline : ∀ t, p ('\n' :: t) = false) (h : ∀ s, p (crlf s) = p s) (s : List Char) :
    countWhere p (crlf s) = countWhere p s := by
  induction s with
  | nil => rfl
  | cons c t ih =>
    by_cases hc : c = '\n'
    · subst hc
      rw [crlf_newline, countWhere, countWhere, countWhere, hreturn, hnewline, hnewline, ih]
      exact Nat.zero_add _
    · have hplace := h (c :: t)
      rw [crlf_cons hc] at hplace ⊢
      rw [countWhere, countWhere, hplace, ih]

/-! ## 4. Replacements and lower case -/

/-- **A replacement keeps line ends**, if neither piece holds a part of one. -/
theorem replaceAll_crlf {old new : String} (hne : old ≠ "") (hreturn : '\r' ∉ old.toList)
    (hold : '\n' ∉ old.toList) (hnew : '\n' ∉ new.toList) (s : List Char) :
    replaceAll old new (crlf s) = crlf (replaceAll old new s) := by
  have hreplaced {line : List Char} (hline : '\n' ∉ line) : '\n' ∉ replaceAll old new line :=
    fun hmem => (mem_replaceAll hne hmem).elim hnew hline
  induction s using lines_induction with
  | last line hline => rw [crlf_of_notMem hline, crlf_of_notMem (hreplaced hline)]
  | line line t hline ih =>
    have hbehind : replaceAll old new ('\n' :: crlf t) = '\n' :: replaceAll old new (crlf t) :=
      replaceAll_append_cons hne hold [] (crlf t)
    rw [crlf_append_line hline, replaceAll_append_cons hne hreturn, hbehind, ih,
      replaceAll_append_cons hne hold, crlf_append_line (hreplaced hline)]

theorem shift_of_shiftIn {runs : List CaseRun} {n : Nat} {shift : Int}
    (h : shiftIn runs n = some shift) : ∃ r ∈ runs, r.first ≤ n ∧ r.shift = shift := by
  induction runs with
  | nil => exact absurd h (by simp [shiftIn])
  | cons r runs ih =>
    rw [shiftIn] at h
    split at h
    · exact absurd h (by simp)
    · split at h
      · rename_i hfirst _
        exact ⟨r, List.mem_cons_self, Nat.not_lt.mp hfirst, Option.some.inj h⟩
      · obtain ⟨r', hr', hshift⟩ := ih h
        exact ⟨r', List.mem_cons_of_mem r hr', hshift⟩

/-- No run of characters with a lower case reaches down to the control characters. -/
theorem lowerRuns_above : ∀ r ∈ lowerRuns, 0x20 ≤ (r.first : Int) + r.shift := by
  decide +kernel

theorem lowerSpecial_above : ∀ entry ∈ lowerSpecial, ∀ n ∈ entry.2, Char.ofNat n ≠ '\n' := by
  decide

/-- The character of a number has that number, or the number is that of no character. -/
theorem toNat_ofNat_cases (n : Nat) : (Char.ofNat n).toNat = n ∨ (Char.ofNat n).toNat = 0 := by
  by_cases hvalid : n.isValidChar
  · exact .inl (by rw [Char.ofNat, dif_pos hvalid]; rfl)
  · exact .inr (by rw [Char.ofNat, dif_neg hvalid]; rfl)

/-- **A line feed is the lower case of nothing else.** -/
theorem newline_notMem_lowerChar (h : c ≠ '\n') : '\n' ∉ lowerChar c := by
  rw [lowerChar, caseForm]
  split
  · rename_i shift hshift
    obtain ⟨r, hr, hfirst, rfl⟩ := shift_of_shiftIn hshift
    have habove := lowerRuns_above r hr
    rw [List.mem_singleton]
    intro hnewline
    have hcode : (Char.ofNat (c.toNat + r.shift).toNat).toNat = 10 := by rw [← hnewline]; rfl
    rcases toNat_ofNat_cases (c.toNat + r.shift).toNat with hsame | hnone <;> omega
  · split
    · rename_i n form hform
      have hmem := List.mem_of_find?_eq_some hform
      intro hnewline
      obtain ⟨m, hm, hchar⟩ := List.mem_map.mp hnewline
      exact lowerSpecial_above _ hmem m hm hchar
    · rw [List.mem_singleton]
      exact h.symm

theorem casedNext_crlf (s : List Char) : casedNext (crlf s) = casedNext s := by
  induction s with
  | nil => rfl
  | cons c t ih =>
    by_cases hc : c = '\n'
    · subst hc
      rw [crlf_newline]
      rfl
    · rw [crlf_cons hc, casedNext, casedNext, ih]

/-- A line feed stays, and behind it no letter came last. -/
theorem lowerFrom_newline (afterCased : Bool) (t : List Char) :
    lowerFrom afterCased ('\n' :: t) = '\n' :: lowerFrom false t := rfl

theorem lowerFrom_return (afterCased : Bool) (t : List Char) :
    lowerFrom afterCased ('\r' :: t) = '\r' :: lowerFrom false t := rfl

theorem lowerFrom_crlf (afterCased : Bool) (s : List Char) :
    lowerFrom afterCased (crlf s) = crlf (lowerFrom afterCased s) := by
  induction s generalizing afterCased with
  | nil => rfl
  | cons c t ih =>
    by_cases hc : c = '\n'
    · subst hc
      rw [crlf_newline, lowerFrom_return, lowerFrom_newline, ih, lowerFrom_newline, crlf_newline]
    · rw [crlf_cons hc, lowerFrom, lowerFrom, casedNext_crlf, ih, crlf_append]
      split
      · split <;> decide
      · exact newline_notMem_lowerChar hc

/-- **Lower case keeps line ends.** -/
theorem lower_crlf (s : List Char) : lower (crlf s) = crlf (lower s) :=
  lowerFrom_crlf false s

end Critique.Text
