/-
# The four substitutions

A rewrite is a sweep, the pass that drops calls, and one substitution more.  Without that pass it is
four substitutions, one after the other (`substituted`), and on a text without calls it is just these
(`rewriteChars_eq_substituted`).  None of the eight pieces that they take out or put in holds a line
feed, so they go line by line, whatever else is in the text.  And whether they touch a piece of text
is a question about nine pieces and not about the text: `Spared` asks it of the four substitutions at
once.

* `splitLines_swept`: the sweep goes line by line;
* `has_substituted` and `splitLines_substituted`: so do the substitutions, and a spared piece occurs
  where it occurred;
* `dropCalls_eq_self`: nothing is dropped from a text without calls;
* `rewriteChars_eq_substituted`: the rewrite of a text without calls.
-/
import Critique.Proofs.Rewrite.Scanner
import Critique.Proofs.Text.Places

namespace Critique.Rewrite

open Text

variable {s : List Char}

/-! ## 1. The sweep -/

/-- The rewrite of a text as scans. -/
theorem rewriteChars_eq_spaced (s : List Char) : rewriteChars s = spaced (withoutCalls (swept s)) := by
  rw [rewrite_eq_comp, fused_eq_swept, dropCalls_eq_withoutCalls, replaceAll_function]

/-- **The sweep goes line by line.** -/
theorem splitLines_swept (s : List Char) : splitLines (swept s) = (splitLines s).map swept := by
  rw [← fused_eq_swept, splitLines_replaceAll (by decide) (by decide) (by decide),
    splitLines_replaceAll (by decide) (by decide) (by decide),
    splitLines_replaceAll (by decide) (by decide) (by decide), List.map_map, List.map_map]
  exact List.map_congr_left fun line _ => fused_eq_swept line

/-- The sweep makes no text shorter. -/
theorem length_le_swept (s : List Char) : s.length ≤ (swept s).length := by
  rw [← fused_eq_swept]
  calc s.length
      ≤ (replaceAll "var " "const " s).length := length_le_replaceAll (by decide) (by decide) _
    _ ≤ (replaceAll "==" "===" _).length := length_le_replaceAll (by decide) (by decide) _
    _ ≤ (replaceAll "!=" "!==" _).length := length_le_replaceAll (by decide) (by decide) _

theorem swept_eq_nil_iff : swept s = [] ↔ s = [] := by
  refine ⟨fun h => ?_, fun h => by rw [h, swept, sweptBehind]⟩
  have hlonger := length_le_swept s
  rw [h, List.length_nil] at hlonger
  exact List.length_eq_zero_iff.mp (Nat.le_zero.mp hlonger)

/-- The sweep makes no call and loses none. -/
theorem has_callHead_swept (s : List Char) : has (swept s) callHead = has s callHead := by
  rw [← fused_eq_swept, has_replaceAll (by decide) (by decide) (by decide),
    has_replaceAll (by decide) (by decide) (by decide),
    has_replaceAll (by decide) (by decide) (by decide)]

/-! ## 2. The substitutions -/

/-- The text after the four substitutions, without the pass that drops calls. -/
def substituted (s : List Char) : List Char :=
  replaceAll "function(" "function (" (replaceAll "!=" "!==" (replaceAll "==" "==="
    (replaceAll "var " "const " s)))

/-- The substitutions are the sweep and one more. -/
theorem substituted_eq (s : List Char) :
    substituted s = replaceAll "function(" "function (" (swept s) := by
  rw [substituted, fused_eq_swept]

/-- Whether none of the four substitutions can touch a piece. -/
def Spared (piece : String) : Prop :=
  Spares "var " "const " piece ∧ Spares "==" "===" piece ∧ Spares "!=" "!==" piece ∧
    Spares "function(" "function (" piece

instance (piece : String) : Decidable (Spared piece) := inferInstanceAs (Decidable (_ ∧ _))

/-- **A spared piece occurs if it occurred before.** -/
theorem has_substituted {piece : String} (h : Spared piece) (hpiece : piece ≠ "")
    (s : List Char) : has (substituted s) piece = has s piece := by
  obtain ⟨hdeclaration, hequal, hunequal, hfunction⟩ := h
  rw [substituted, has_replaceAll hfunction (by decide) hpiece,
    has_replaceAll hunequal (by decide) hpiece, has_replaceAll hequal (by decide) hpiece,
    has_replaceAll hdeclaration (by decide) hpiece]

/-- **The substitutions go line by line.** -/
theorem splitLines_substituted (s : List Char) :
    splitLines (substituted s) = (splitLines s).map substituted := by
  rw [substituted_eq, splitLines_replaceAll (by decide) (by decide) (by decide), splitLines_swept,
    List.map_map]
  exact List.map_congr_left fun line _ => (substituted_eq line).symm

theorem newline_notMem_substituted {line : List Char} (h : '\n' ∉ line) :
    '\n' ∉ substituted line := by
  have hline : splitLines (substituted line) = [substituted line] := by
    rw [splitLines_substituted, splitLines_of_notMem h, List.map_singleton]
  exact newline_notMem (hline ▸ List.mem_singleton_self (substituted line))

/-- The substitutions make no text shorter. -/
theorem length_le_substituted (s : List Char) : s.length ≤ (substituted s).length := by
  rw [substituted_eq]
  exact (length_le_swept s).trans (length_le_replaceAll (by decide) (by decide) _)

/-- The substitutions bring no text into a blank line. -/
theorem blank_of_substituted (h : Blank (substituted s)) : Blank s := by
  rw [substituted] at h
  exact blank_of_replaceAll (by decide) (by decide) (blank_of_replaceAll (by decide) (by decide)
    (blank_of_replaceAll (by decide) (by decide) (blank_of_replaceAll (by decide) (by decide) h)))

/-! ## 3. Texts without calls -/

/-- Nothing is dropped from a text without calls. -/
theorem dropCalls_eq_self (h : has s callHead = false) : dropCalls s = s := by
  rw [dropCalls_eq_withoutCalls]
  rw [has, ← Bool.not_eq_true, occurs_iff] at h
  fun_induction withoutCalls s with
  | case1 => rfl
  | case2 c t hcall ih => exact absurd hcall.1.isInfix h
  | case3 c t hcall ih => rw [ih fun hinfix => h (List.infix_cons hinfix)]

/-- **The rewrite of a text without calls** is the four substitutions. -/
theorem rewriteChars_eq_substituted (h : has s callHead = false) :
    rewriteChars s = substituted s := by
  rw [rewrite_eq_comp, fused_eq_swept, dropCalls_eq_self (by rwa [has_callHead_swept]),
    substituted_eq]

end Critique.Rewrite
