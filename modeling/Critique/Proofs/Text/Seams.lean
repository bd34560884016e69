/-
# Counts across a seam

Where two texts are joined, what was found in either is still found, and something may be found that
lies across the seam.  How much that is depends on what is counted.

Places from which a pattern matches are counted one by one, so the join has just those more at which
the pattern matches only because of the second text (`crosses`).  Occurrences without overlap are
another matter: one across the seam may take the place of others behind it.  For a doubled character
this evens out: the join has one more at most, and none unless the first text ends in the character.

* `countWhere_append`: the places in a join;
* `countWhere_le_one`: a pattern that matches from one place of a text at most;
* `count_pair_append`: doubled characters in a join.
-/
import Critique.Text.Search
import Mathlib.Data.List.Infix

namespace Critique.Text

/-! ## 1. Places -/

/-- Whether a pattern matches from the front of a text, but only because of what follows the text. -/
def crosses (p : List Char → Bool) (behind s : List Char) : Bool :=
  p (s ++ behind) && !p s

/-- **The places in a join** are those in the two texts and those that need both. -/
theorem countWhere_append {p : List Char → Bool}
    (stays : ∀ s behind, p s = true → p (s ++ behind) = true) (a b : List Char) :
    countWhere p (a ++ b) = countWhere p a + countWhere (crosses p b) a + countWhere p b := by
  induction a with
  | nil => simp [countWhere]
  | cons c t ih =>
    rw [List.cons_append, countWhere, countWhere, countWhere, ih, crosses, List.cons_append]
    cases hp : p (c :: t) with
    | true =>
      have hjoin : p (c :: (t ++ b)) = true := stays (c :: t) b hp
      simp only [hjoin, Bool.not_true, Bool.and_false, if_true, Bool.false_eq_true, if_false]
      omega
    | false =>
      simp only [Bool.not_false, Bool.and_true, Bool.false_eq_true, if_false]
      omega

/-- Where something is counted, there is a place. -/
theorem exists_of_countWhere_ne_zero {p : List Char → Bool} {s : List Char}
    (h : countWhere p s ≠ 0) : ∃ t, t <:+ s ∧ t ≠ [] ∧ p t = true := by
  induction s with
  | nil => exact absurd rfl h
  | cons c t ih =>
    cases hp : p (c :: t) with
    | true => exact ⟨c :: t, List.suffix_refl _, List.cons_ne_nil c t, hp⟩
    | false =>
      rw [countWhere, hp] at h
      obtain ⟨u, hu, hne, hpu⟩ := ih (by simpa using h)
      exact ⟨u, hu.trans (List.suffix_cons c t), hne, hpu⟩

/-- A pattern that matches from one place at most is counted once at most. -/
theorem countWhere_le_one {p : List Char → Bool} {s : List Char}
    (once : ∀ t u, t <:+ s → u <:+ s → p t = true → p u = true → t = u) : countWhere p s ≤ 1 := by
  induction s with
  | nil => exact Nat.zero_le 1
  | cons c t ih =>
    have hrest := ih fun u v hu hv => once u v (hu.trans (List.suffix_cons c t))
      (hv.trans (List.suffix_cons c t))
    cases hp : p (c :: t) with
    | false =>
      rw [countWhere, hp]
      simpa using hrest
    | true =>
      have hnone : countWhere p t = 0 := by
        by_contra hsome
        obtain ⟨u, hu, -, hpu⟩ := exists_of_countWhere_ne_zero hsome
        have heq := once u (c :: t) (hu.trans (List.suffix_cons c t)) (List.suffix_refl _) hpu hp
        have hshort := hu.length_le
        rw [heq, List.length_cons] at hshort
        omega
      rw [countWhere, hp, hnone]
      rfl

/-! ## 2. Doubled characters -/

variable {x c : Char}

theorem count_pair_nil : count [x, x] [] = 0 := rfl

theorem count_pair_pair (x : Char) (t : List Char) :
    count [x, x] (x :: x :: t) = count [x, x] t + 1 := by
  simp [count, countSkipping]

/-- Where the character is not doubled, nothing is counted. -/
theorem count_pair_cons {t : List Char} (h : ¬ (c = x ∧ t.head? = some x)) :
    count [x, x] (c :: t) = count [x, x] t := by
  have hnot : [x, x].isPrefixOf (c :: t) = false := by
    rw [← Bool.not_eq_true, List.isPrefixOf_iff_prefix]
    rintro ⟨rest, hrest⟩
    obtain ⟨rfl, rfl⟩ : x = c ∧ x :: rest = t := by simpa using hrest
    exact h ⟨rfl, rfl⟩
  rw [count, countSkipping, hnot]
  rfl

/-- One character in front of a text makes for one more at most, and never for fewer. -/
theorem count_pair_cons_bounds (x c : Char) (t : List Char) :
    count [x, x] t ≤ count [x, x] (c :: t) ∧ count [x, x] (c :: t) ≤ count [x, x] t + 1 := by
  induction t generalizing c with
  | nil => simp [count, countSkipping]
  | cons d t ih =>
    by_cases h : c = x ∧ d = x
    · obtain ⟨rfl, rfl⟩ := h
      have hrest := ih d
      rw [count_pair_pair]
      omega
    · have hskip : count [x, x] (c :: d :: t) = count [x, x] (d :: t) :=
        count_pair_cons (by simpa using h)
      omega

/-- **Doubled characters in a join**: one more at most, and that only if the first text ends in the
character. -/
theorem count_pair_append (x : Char) : ∀ a b : List Char,
    count [x, x] a + count [x, x] b ≤ count [x, x] (a ++ b) ∧
      count [x, x] (a ++ b) ≤ count [x, x] a + count [x, x] b + if a.getLast? = some x then 1 else 0
  | [], b => by simp [count_pair_nil]
  | [c], b => by
    have hlast : count [x, x] [c] = 0 := by simp [count, countSkipping]
    rw [List.cons_append, List.nil_append, hlast, List.getLast?_singleton]
    by_cases hc : c = x
    · rw [if_pos (congrArg some hc), Nat.zero_add]
      exact count_pair_cons_bounds x c b
    · rw [count_pair_cons fun h => hc h.1]
      omega
  | c :: d :: t, b => by
    by_cases h : c = x ∧ d = x
    · obtain ⟨rfl, rfl⟩ := h
      have hrest := count_pair_append d t b
      have hlast : t.getLast? = some d → (d :: d :: t).getLast? = some d := by
        intro hlast
        rw [List.getLast?_cons, List.getLast?_cons, hlast]
        rfl
      rw [List.cons_append, List.cons_append, count_pair_pair, count_pair_pair]
      split at hrest
      · next hends =>
        rw [if_pos (hlast hends)]
        omega
      · omega
    · have hrest := count_pair_append x (d :: t) b
      have hskip (t : List Char) : count [x, x] (c :: d :: t) = count [x, x] (d :: t) :=
        count_pair_cons (by simpa using h)
      rw [List.cons_append, List.cons_append, hskip, hskip, List.getLast?_cons_cons]
      exact hrest

end Critique.Text
