/-
# Lines, one at a time

A text is cut at every separator.  Seen from the front it is either one part without a separator, or
such a part, a separator, and a text that is shorter; `lines_induction` is the induction that goes
with this.

Blanks at the ends of a line do not count for what the line says.  `texts` lists what the lines of a
text say: the lines that hold more than blanks, each without the blanks at its ends.

* `parts_of_notMem` and `parts_append`: the parts of a text, seen from the front;
* `lines_induction` and `lines_induction_skipping`: induction on the lines of a text;
* `strip_blank_append` and `strip_append_blank`: blanks at the ends of a line;
* `texts_append_line`, `texts_blank_append` and `texts_append_blank`: what lines say.
-/
import Critique.Text.Search
import Critique.Text.Space
import Mathlib.Data.List.TakeWhile

namespace Critique

/-! ## 1. Parts and lines -/

theorem Text.parts_of_notMem {separator : Char} {s : List Char} (h : separator ∉ s) :
    parts separator s = [s] := by
  induction s with
  | nil => rfl
  | cons c t ih =>
    rw [List.mem_cons, not_or] at h
    rw [parts, if_neg (Ne.symm h.1), ih h.2]

/-- A text without separators is the first part of the text that goes on behind a separator. -/
theorem Text.parts_append {separator : Char} {s : List Char} (h : separator ∉ s) (t : List Char) :
    parts separator (s ++ separator :: t) = s :: parts separator t := by
  induction s with
  | nil => simp [parts]
  | cons c s ih =>
    rw [List.mem_cons, not_or] at h
    rw [List.cons_append, parts, if_neg (Ne.symm h.1), ih h.2]

/-- A text of one line. -/
theorem Text.splitLines_of_notMem {line : List Char} (h : '\n' ∉ line) : splitLines line = [line] :=
  parts_of_notMem h

/-- A line is the first one of the text that goes on behind its end. -/
theorem Text.splitLines_append {line : List Char} (h : '\n' ∉ line) (t : List Char) :
    splitLines (line ++ '\n' :: t) = line :: splitLines t :=
  parts_append h t

/-- **Induction on the lines of a text**: it is a last line, or a line and the text behind it. -/
@[elab_as_elim]
theorem Text.lines_induction {motive : List Char → Prop}
    (last : ∀ line, '\n' ∉ line → motive line)
    (line : ∀ line t, '\n' ∉ line → motive t → motive (line ++ '\n' :: t)) (s : List Char) :
    motive s := by
  induction hlength : s.length using Nat.strongRecOn generalizing s with
  | ind n ih =>
    by_cases hmem : '\n' ∈ s
    · obtain ⟨front, t, rfl, hfront⟩ := List.eq_append_cons_of_mem hmem
      have hshorter : t.length < n := by
        rw [← hlength, List.length_append, List.length_cons]
        omega
      exact line front t hfront (ih t.length hshorter t rfl)
    · exact last s hmem

namespace Text

/-- Behind a character of its own a text has the same lines, the first one longer. -/
theorem splitLines_cons {c : Char} (h : c ≠ '\n') (t : List Char) :
    ∃ line rest, splitLines t = line :: rest ∧ splitLines (c :: t) = (c :: line) :: rest := by
  cases hlines : splitLines t with
  | nil => exact absurd hlines (parts_ne_nil '\n' t)
  | cons line rest =>
    refine ⟨line, rest, rfl, ?_⟩
    rw [splitLines] at hlines
    rw [splitLines, parts, if_neg h, hlines]

/-- No line holds the end of one. -/
theorem newline_notMem {s line : List Char} (h : line ∈ splitLines s) : '\n' ∉ line := by
  induction s using lines_induction with
  | last front hfront =>
    rw [splitLines_of_notMem hfront, List.mem_singleton] at h
    exact h ▸ hfront
  | line front t hfront ih =>
    rw [splitLines_append hfront, List.mem_cons] at h
    rcases h with rfl | h
    · exact hfront
    · exact ih h

/-! ## 2. Blanks -/

/-- A text of blanks. -/
def Blank (s : List Char) : Prop :=
  ∀ c ∈ s, isBlank c = true

instance (s : List Char) : Decidable (Blank s) :=
  List.decidableBAll (fun c => isBlank c = true) s

variable {s t : List Char}

@[simp] theorem blank_nil : Blank [] := by
  simp [Blank]

@[simp] theorem blank_cons {c : Char} : Blank (c :: s) ↔ isBlank c = true ∧ Blank s :=
  List.forall_mem_cons

@[simp] theorem blank_append : Blank (s ++ t) ↔ Blank s ∧ Blank t :=
  List.forall_mem_append

theorem blank_takeWhile (s : List Char) : Blank (s.takeWhile isBlank) :=
  fun _ hc => List.mem_takeWhile_imp hc

theorem dropWhile_eq_nil_iff_blank : s.dropWhile isBlank = [] ↔ Blank s :=
  List.dropWhile_eq_nil_iff

theorem strip_eq_nil_iff : strip s = [] ↔ Blank s := by
  rw [strip, stripBy, stripEnd, List.reverse_eq_nil_iff, List.dropWhile_eq_nil_iff]
  simp only [List.mem_reverse]
  constructor
  · intro h
    rw [← List.takeWhile_append_dropWhile (p := isBlank) (l := s)]
    exact blank_append.mpr ⟨blank_takeWhile s, h⟩
  · exact fun h c hc => h c ((List.dropWhile_suffix _).subset hc)

/-- **Blanks in front** do not count. -/
theorem strip_blank_append (h : Blank s) : strip (s ++ t) = strip t := by
  rw [strip, strip, stripBy, stripBy, List.dropWhile_append_of_pos h]

/-- **Blanks at the end** do not count. -/
theorem strip_append_blank (h : Blank t) : strip (s ++ t) = strip s := by
  rw [strip, strip, stripBy, stripBy, List.dropWhile_append]
  split
  · rename_i hs
    rw [List.isEmpty_iff] at hs
    rw [hs, dropWhile_eq_nil_iff_blank.mpr h]
  · rw [stripEnd, stripEnd, List.reverse_append,
      List.dropWhile_append_of_pos fun c hc => h c (List.mem_reverse.mp hc)]

/-- **Induction on the lines of a text**, where behind a line blanks may be passed over, blank lines
among them. -/
@[elab_as_elim]
theorem lines_induction_skipping {motive : List Char → Prop}
    (last : ∀ line, '\n' ∉ line → motive line)
    (line : ∀ line t, '\n' ∉ line → motive t → motive (t.dropWhile isBlank) →
      motive (line ++ '\n' :: t)) (s : List Char) : motive s := by
  have hboth : motive s ∧ motive (s.dropWhile isBlank) := by
    induction s using lines_induction with
    | last front hfront =>
      refine ⟨last front hfront, last _ fun hmem => hfront ?_⟩
      exact (List.dropWhile_suffix _).subset hmem
    | line front t hfront ih =>
      refine ⟨line front t hfront ih.1 ih.2, ?_⟩
      rw [List.dropWhile_append]
      split
      · rw [List.dropWhile_cons_of_pos rfl]
        exact ih.2
      · refine line _ t (fun hmem => hfront ?_) ih.1 ih.2
        exact (List.dropWhile_suffix _).subset hmem
  exact hboth.1

/-! ## 3. What lines say -/

/-- What the lines of a text say: those that hold more than blanks, without the blanks around. -/
def texts (s : List Char) : List (List Char) :=
  ((splitLines s).map strip).filter (· ≠ [])

theorem texts_of_notMem {line : List Char} (h : '\n' ∉ line) :
    texts line = [strip line].filter (· ≠ []) := by
  rw [texts, splitLines_of_notMem h, List.map_singleton]

/-- **Lines say one thing after the other.** -/
theorem texts_append_line {line : List Char} (h : '\n' ∉ line) (t : List Char) :
    texts (line ++ '\n' :: t) = texts line ++ texts t := by
  rw [texts_of_notMem h, texts, splitLines_append h, List.map_cons, texts, ← List.filter_append]
  rfl

theorem texts_cons_blank {c : Char} (h : isBlank c = true) (t : List Char) :
    texts (c :: t) = texts t := by
  by_cases hc : c = '\n'
  · subst hc
    exact texts_append_line (List.not_mem_nil : '\n' ∉ []) t
  · obtain ⟨line, rest, hlines, hlonger⟩ := splitLines_cons hc t
    have hstrip : strip (c :: line) = strip line := strip_blank_append (s := [c]) (by simpa using h)
    rw [texts, texts, hlines, hlonger, List.map_cons, List.map_cons, hstrip]

/-- Blanks in front of a text say nothing. -/
theorem texts_blank_append (h : Blank s) : texts (s ++ t) = texts t := by
  induction s with
  | nil => rfl
  | cons c s ih =>
    obtain ⟨hc, hs⟩ := blank_cons.mp h
    rw [List.cons_append, texts_cons_blank hc, ih hs]

theorem texts_of_blank (h : Blank s) : texts s = [] := by
  have hnothing : texts (s ++ []) = [] := texts_blank_append h
  rwa [List.append_nil] at hnothing

/-- Blanks behind a line say nothing, and neither do blank lines behind it. -/
theorem texts_append_blank {line : List Char} (hline : '\n' ∉ line) (h : Blank t) :
    texts (line ++ t) = texts line := by
  induction t using lines_induction generalizing line with
  | last t ht =>
    have hwhole : '\n' ∉ line ++ t := by simp [hline, ht]
    rw [texts_of_notMem hwhole, texts_of_notMem hline, strip_append_blank h]
  | line t rest ht _ =>
    obtain ⟨hfront, hrest⟩ := blank_append.mp h
    have hwhole : '\n' ∉ line ++ t := by simp [hline, ht]
    rw [← List.append_assoc, texts_append_line hwhole, texts_of_blank (blank_cons.mp hrest).2,
      List.append_nil, texts_of_notMem hwhole, texts_of_notMem hline, strip_append_blank hfront]

/-- A line that says nothing is blank. -/
theorem texts_eq_nil_iff {line : List Char} (h : '\n' ∉ line) : texts line = [] ↔ Blank line := by
  rw [texts_of_notMem h, ← strip_eq_nil_iff]
  by_cases hstrip : strip line = [] <;> simp [hstrip]

theorem length_texts_le_one {line : List Char} (h : '\n' ∉ line) : (texts line).length ≤ 1 := by
  rw [texts_of_notMem h]
  exact List.length_filter_le _ _

end Text

end Critique
