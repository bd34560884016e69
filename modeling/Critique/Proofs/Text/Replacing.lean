/-
# Replacing, one occurrence at a time

`replaceAll` walks through a text with a count of the characters that still belong to the occurrence
in hand.  Seen from the front there are only two things that it does: where the text begins with the
piece it puts the new text in and goes on behind the piece (`replaceAll_append`), and where it does
not it copies one character (`replaceAll_cons`).  Everything else about a replacement follows from
these two, and nothing needs the count again.

* `replaceAll_append` and `replaceAll_cons`: the two steps of a replacement;
* `replaceAll_copy`: a character with which the piece does not begin is copied.
-/
import Critique.Text.Search
import Mathlib.Data.List.Basic

namespace Critique.Text

/-! ## 1. The two steps -/

/-- The characters that still belong to an occurrence are passed over. -/
theorem replaceSkipping_append (old new : List Char) (skipped rest : List Char) :
    replaceSkipping old new skipped.length (skipped ++ rest) = replaceSkipping old new 0 rest := by
  induction skipped with
  | nil => rfl
  | cons c skipped ih => simpa [replaceSkipping] using ih

variable {old new : String}

/-- **Where the text begins with the piece**, the new text goes in and the rest is replaced. -/
theorem replaceAll_append (h : old ≠ "") (rest : List Char) :
    replaceAll old new (old.toList ++ rest) = new.toList ++ replaceAll old new rest := by
  obtain ⟨c, piece, hpiece⟩ : ∃ c piece, old.toList = c :: piece := by
    cases hold : old.toList with
    | nil => exact absurd (String.toList_eq_nil_iff.mp hold) h
    | cons c piece => exact ⟨c, piece, rfl⟩
  have hbegins : (c :: piece).isPrefixOf (c :: (piece ++ rest)) = true :=
    List.isPrefixOf_iff_prefix.mpr (List.prefix_append (c :: piece) rest)
  have hskip := replaceSkipping_append (c :: piece) new.toList piece rest
  rw [replaceAll, replaceAll, hpiece, List.cons_append, replaceSkipping, if_pos hbegins,
    List.length_cons, Nat.add_sub_cancel, hskip]

/-- **Where the text does not begin with the piece**, one character is copied. -/
theorem replaceAll_cons {c : Char} {rest : List Char} (h : ¬ old.toList <+: c :: rest) :
    replaceAll old new (c :: rest) = c :: replaceAll old new rest := by
  have hbegins : ¬ old.toList.isPrefixOf (c :: rest) = true :=
    fun hprefix => h (List.isPrefixOf_iff_prefix.mp hprefix)
  rw [replaceAll, replaceAll, replaceSkipping, if_neg hbegins]

/-! ## 2. What is copied -/

/-- A character with which the piece does not begin is copied. -/
theorem replaceAll_copy {c : Char} (hne : old ≠ "") (h : old.toList.head? ≠ some c)
    (rest : List Char) : replaceAll old new (c :: rest) = c :: replaceAll old new rest := by
  refine replaceAll_cons fun hprefix => ?_
  cases hold : old.toList with
  | nil => exact hne (String.toList_eq_nil_iff.mp hold)
  | cons d piece =>
    rw [hold, List.cons_prefix_cons] at hprefix
    exact h (by rw [hold, List.head?_cons, hprefix.1])

/-- Characters with none of which the piece begins are copied. -/
theorem replaceAll_copy_append (hne : old ≠ "") {copied : List Char}
    (h : ∀ c ∈ copied, old.toList.head? ≠ some c) (rest : List Char) :
    replaceAll old new (copied ++ rest) = copied ++ replaceAll old new rest := by
  induction copied with
  | nil => rfl
  | cons c copied ih =>
    rw [List.forall_mem_cons] at h
    rw [List.cons_append, replaceAll_copy hne h.1, ih h.2, List.cons_append]

end Critique.Text
