/-
# The ends of lines with calls

Dropping calls goes line by line, as long as every call is closed on its line.  A line keeps its end
if something other than blanks stands behind its last call (`withoutCalls_line`), and otherwise it
gives up its end together with all blanks behind it (`withoutCalls_lastCall`).

* `behindCall_append`: what stands behind a call on a line that more text follows;
* `withoutCalls_line` and `withoutCalls_lastCall`: a line that keeps its end, and one that does not;
* `closesCalls_swept` and `endsInCall_swept`: calls on a line before and after the sweep.
-/
import Critique.Proofs.Rewrite.Calls
import Mathlib.Data.List.DropRight

namespace Critique.Rewrite

open Text

/-! ## 1. Lines with calls -/

/-- Whether every head of a call on a line goes on to a closing parenthesis on that line. -/
def ClosesCalls (line : List Char) : Prop :=
  ∀ call ∈ places callHead.toList line, StartsCall call

instance (line : List Char) : Decidable (ClosesCalls line) :=
  inferInstanceAs (Decidable (∀ call ∈ places callHead.toList line, _))

/-- Whether a call ends a line: nothing but blanks stands behind it. -/
def EndsInCall (line : List Char) : Prop :=
  ∃ call ∈ places callHead.toList line, StartsCall call ∧ behindCall call = []

instance (line : List Char) : Decidable (EndsInCall line) :=
  inferInstanceAs (Decidable (∃ call ∈ places callHead.toList line, _))

theorem ne_of_isBlank {c : Char} (h : isBlank c = true) : c ≠ 'c' := by
  rintro rfl
  exact absurd h (by decide)

variable {c : Char} {s t line : List Char}

theorem ClosesCalls.of_suffix (h : ClosesCalls line) (hs : s <:+ line) : ClosesCalls s := by
  intro call hcall
  obtain ⟨hsuffix, hbegins⟩ := mem_places.mp hcall
  exact h call (mem_places.mpr ⟨hsuffix.trans hs, hbegins⟩)

theorem closesCalls_cons (h : c ≠ 'c') : ClosesCalls (c :: s) ↔ ClosesCalls s := by
  refine ⟨fun hcloses => hcloses.of_suffix (List.suffix_cons c s), fun hcloses call hcall => ?_⟩
  rw [places_cons, if_neg (not_callHead_cons h s), List.nil_append] at hcall
  exact hcloses call hcall

theorem endsInCall_cons (h : ¬ StartsCall (c :: s)) : EndsInCall (c :: s) ↔ EndsInCall s := by
  constructor
  · rintro ⟨call, hcall, hstarts, hbehind⟩
    obtain ⟨hsuffix, hbegins⟩ := mem_places.mp hcall
    rcases List.suffix_cons_iff.mp hsuffix with rfl | hsuffix
    · exact absurd hstarts h
    · exact ⟨call, mem_places.mpr ⟨hsuffix, hbegins⟩, hstarts, hbehind⟩
  · rintro ⟨call, hcall, hstarts, hbehind⟩
    obtain ⟨hsuffix, hbegins⟩ := mem_places.mp hcall
    exact ⟨call, mem_places.mpr ⟨hsuffix.trans (List.suffix_cons c s), hbegins⟩, hstarts, hbehind⟩

theorem not_endsInCall_nil : ¬ EndsInCall [] := by
  decide

/-- Behind its first call a line ends in a call if it does so as a whole. -/
theorem endsInCall_call (h : StartsCall s) :
    EndsInCall s ↔ behindCall s = [] ∨ EndsInCall (behindCall s) := by
  constructor
  · rintro ⟨call, hcall, hstarts, hbehind⟩
    obtain ⟨hsuffix, hbegins⟩ := mem_places.mp hcall
    rcases suffix_of_call h hsuffix hbegins with hlater | rfl | ⟨-, hsame⟩
    · exact .inr ⟨call, mem_places.mpr ⟨hlater, hbegins⟩, hstarts, hbehind⟩
    · exact .inl hbehind
    · exact .inl (hsame ▸ hbehind)
  · rintro (hnil | ⟨call, hcall, hstarts, hbehind⟩)
    · exact ⟨s, mem_places.mpr ⟨List.suffix_refl s, h.1⟩, h, hnil⟩
    · obtain ⟨hsuffix, hbegins⟩ := mem_places.mp hcall
      exact ⟨call, mem_places.mpr ⟨hsuffix.trans (behindCall_suffix h), hbegins⟩, hstarts, hbehind⟩

/-! ## 2. The end of a line -/

theorem behindSemicolon_append (s rest : List Char) :
    behindSemicolon (s ++ '\n' :: rest) = behindSemicolon s ++ '\n' :: rest := by
  cases s with
  | nil => rfl
  | cons c t =>
    by_cases hc : c = ';'
    · subst hc
      rfl
    · simp [behindSemicolon, hc]

/-- A call on a line is one in the text that goes on behind the line. -/
theorem StartsCall.append (h : StartsCall s) (rest : List Char) : StartsCall (s ++ rest) := by
  obtain ⟨front, behind, rfl, hfront⟩ := startsCall_iff.mp h
  refine startsCall_iff.mpr ⟨front, behind ++ rest, ?_, hfront⟩
  rw [List.append_assoc, List.append_assoc, List.cons_append]

/-- **What stands behind a call** on a line that more text follows: what is left of the line, and if
that is nothing, what follows without the blanks in front of it. -/
theorem behindCall_append (h : StartsCall s) (rest : List Char) :
    behindCall (s ++ '\n' :: rest) =
      if behindCall s = [] then rest.dropWhile isBlank else behindCall s ++ '\n' :: rest := by
  obtain ⟨front, behind, rfl, hfront⟩ := startsCall_iff.mp h
  have hblank : ('\n' :: rest).dropWhile isBlank = rest.dropWhile isBlank :=
    List.dropWhile_cons_of_pos rfl
  rw [List.append_assoc, List.append_assoc, List.cons_append, behindCall_eq hfront,
    behindCall_eq hfront, behindSemicolon_append, List.dropWhile_append, hblank]
  simp only [List.isEmpty_iff]

/-- A head that begins a line stands on it as a whole. -/
theorem ClosesCalls.startsCall (h : ClosesCalls line) {rest : List Char}
    (hcall : StartsCall (line ++ '\n' :: rest)) : StartsCall line :=
  h line (mem_places.mpr ⟨List.suffix_refl line,
    prefix_of_prefix_append_cons (by decide) _ hcall.1⟩)

/-- **A line keeps its end** if no call ends it. -/
theorem withoutCalls_line (h : ClosesCalls line) (hend : ¬ EndsInCall line) (t : List Char) :
    withoutCalls (line ++ '\n' :: t) = withoutCalls line ++ '\n' :: withoutCalls t := by
  fun_induction withoutCalls line with
  | case1 => exact withoutCalls_cons (not_startsCall (by decide) t)
  | case2 c line hcall ih =>
    rw [endsInCall_call hcall, not_or] at hend
    rw [withoutCalls_call (hcall.append _), behindCall_append hcall, if_neg hend.1,
      ih (h.of_suffix (behindCall_suffix hcall)) hend.2]
  | case3 c line hcall ih =>
    have hcopied : ¬ StartsCall (c :: (line ++ '\n' :: t)) := fun hstarts =>
      hcall (h.startsCall hstarts)
    rw [List.cons_append, withoutCalls_cons hcopied,
      ih (h.of_suffix (List.suffix_cons c line)) fun hends =>
        hend ((endsInCall_cons hcall).mpr hends), List.cons_append]

/-- **A line gives up its end**, and all blanks behind it, if a call ends it. -/
theorem withoutCalls_lastCall (h : ClosesCalls line) (hend : EndsInCall line) (t : List Char) :
    withoutCalls (line ++ '\n' :: t) = withoutCalls line ++ withoutCalls (t.dropWhile isBlank) := by
  fun_induction withoutCalls line with
  | case1 => exact absurd hend not_endsInCall_nil
  | case2 c line hcall ih =>
    rw [withoutCalls_call (hcall.append _), behindCall_append hcall]
    by_cases hnil : behindCall (c :: line) = []
    · rw [if_pos hnil, hnil, withoutCalls_nil, List.nil_append]
    · have hends := ((endsInCall_call hcall).mp hend).resolve_left hnil
      rw [if_neg hnil, ih (h.of_suffix (behindCall_suffix hcall)) hends]
  | case3 c line hcall ih =>
    have hcopied : ¬ StartsCall (c :: (line ++ '\n' :: t)) := fun hstarts =>
      hcall (h.startsCall hstarts)
    rw [List.cons_append, withoutCalls_cons hcopied, ih (h.of_suffix (List.suffix_cons c line))
      ((endsInCall_cons hcall).mp hend), List.cons_append]

/-- Blanks in front of a text stay. -/
theorem withoutCalls_blank_append (h : Blank s) (t : List Char) :
    withoutCalls (s ++ t) = s ++ withoutCalls t := by
  induction s with
  | nil => rfl
  | cons c s ih =>
    obtain ⟨hc, hs⟩ := blank_cons.mp h
    rw [List.cons_append, withoutCalls_cons (not_startsCall (ne_of_isBlank hc) _), ih hs,
      List.cons_append]

theorem takeWhile_append_withoutCalls (s : List Char) :
    s.takeWhile isBlank ++ withoutCalls (s.dropWhile isBlank) = withoutCalls s := by
  rw [← withoutCalls_blank_append (blank_takeWhile s), List.takeWhile_append_dropWhile]

/-- Dropping calls brings in nothing. -/
theorem withoutCalls_subset (s : List Char) : withoutCalls s ⊆ s := by
  fun_induction withoutCalls s with
  | case1 => exact List.Subset.refl _
  | case2 c t hcall ih => exact List.Subset.trans ih (behindCall_suffix hcall).subset
  | case3 c t hcall ih => exact List.cons_subset_cons c ih

theorem newline_notMem_withoutCalls (h : '\n' ∉ line) : '\n' ∉ withoutCalls line :=
  fun hmem => h (withoutCalls_subset line hmem)

/-- A line without calls at its end is blank only if it was blank before. -/
theorem blank_of_withoutCalls (hend : ¬ EndsInCall line) (h : Blank (withoutCalls line)) :
    Blank line := by
  fun_induction withoutCalls line with
  | case1 => exact h
  | case2 c line hcall ih =>
    -- behind a call there is either nothing or something that is no blank
    rw [endsInCall_call hcall, not_or] at hend
    have hblank := ih hend.2 h
    refine absurd ?_ hend.1
    obtain ⟨front, rest, hparts, hfront⟩ := startsCall_iff.mp hcall
    rw [hparts, behindCall_eq hfront] at hblank ⊢
    rw [← List.dropWhile_idempotent, dropWhile_eq_nil_iff_blank]
    exact hblank
  | case3 c line hcall ih =>
    obtain ⟨hc, hrest⟩ := blank_cons.mp h
    exact blank_cons.mpr ⟨hc, ih (fun hends => hend ((endsInCall_cons hcall).mpr hends)) hrest⟩

/-! ## 3. The sweep -/

theorem closesCalls_swept : ClosesCalls (swept line) ↔ ClosesCalls line := by
  rw [ClosesCalls, ClosesCalls, places_swept, List.forall_mem_map]
  simp only [startsCall_swept]

/-- A call ends a line after the sweep if one did before. -/
theorem endsInCall_swept : EndsInCall (swept line) ↔ EndsInCall line := by
  have hbehind : ∀ call, StartsCall (swept call) ∧ behindCall (swept call) = [] ↔
      StartsCall call ∧ behindCall call = [] := by
    intro call
    rw [startsCall_swept]
    refine and_congr_right fun hstarts => ?_
    rw [behindCall_swept hstarts, swept_eq_nil_iff]
  rw [EndsInCall, EndsInCall, places_swept]
  simp only [List.mem_map, exists_exists_and_eq_and, hbehind]

end Critique.Rewrite
