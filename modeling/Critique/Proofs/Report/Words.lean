/-
# Numbers among the words of a line

The rule on numbers looks for digits that no other word character touches.  Said by words, that is a
word of nothing but digits: the words of a text are its longest runs of ASCII word characters, so a
digit that is glued to a letter is part of a longer word, while a letter beyond ASCII ends a word
and glues nothing.

A search from the left meets the words in their order.  Inside a word that it has passed over the
front of, nothing is found up to the end of that word (`firstNumber?_glued`), so a word is found as a
whole or not at all (`firstNumber?_append_word`).

* `words_induction`: a text is taken word by word;
* `firstNumber?_eq_find?`: the first number is the first of the words that is one;
* `magicNumber_iff`: the rule, said by words.
-/
import Critique.Proofs.Report.Cleared

namespace Critique.Catalog

variable {c : Char} {word rest : List Char}

/-! ## 1. Words -/

/-- The words of a text, in order: what stands between the characters that are no word characters,
where that is something. -/
def words (s : List Char) : List (List Char) :=
  (s.splitOnP fun c => !isWord c).filter fun run => !run.isEmpty

/-- What follows a word: nothing, or what is no word character. -/
def EndsWord (rest : List Char) : Prop :=
  ∀ c ∈ rest.head?, isWord c = false

@[simp] theorem words_nil : words [] = [] := rfl

/-- **Words end** at a character that is no word character. -/
theorem words_append_cons (hc : isWord c = false) (front rest : List Char) :
    words (front ++ c :: rest) = words front ++ words rest := by
  rw [words, List.splitOnP_append_cons front rest (by simp [hc]), List.filter_append]
  rfl

theorem words_cons (hc : isWord c = false) (rest : List Char) : words (c :: rest) = words rest :=
  words_append_cons hc [] rest

theorem words_eq_singleton (hne : word ≠ []) (h : ∀ c ∈ word, isWord c = true) :
    words word = [word] := by
  have hsplit : word.splitOnP (fun c => !isWord c) = [word] :=
    List.splitOnP_eq_singleton fun c hc => by simp [h c hc]
  simp [words, hsplit, hne]

/-- A word in front of a text is its first word. -/
theorem words_append_word (hne : word ≠ []) (h : ∀ c ∈ word, isWord c = true)
    (hrest : EndsWord rest) : words (word ++ rest) = word :: words rest := by
  cases rest with
  | nil => rw [List.append_nil, words_eq_singleton hne h, words_nil]
  | cons c rest =>
    have hc : isWord c = false := hrest c rfl
    rw [words_append_cons hc, words_eq_singleton hne h, words_cons hc, List.singleton_append]

/-- **A text is taken word by word.** -/
theorem words_induction {motive : List Char → Prop} (nil : motive [])
    (gap : ∀ c rest, isWord c = false → motive rest → motive (c :: rest))
    (word : ∀ word rest, word ≠ [] → (∀ c ∈ word, isWord c = true) → EndsWord rest → motive rest →
      motive (word ++ rest)) (s : List Char) : motive s := by
  induction hlength : s.length using Nat.strong_induction_on generalizing s with
  | _ n ih =>
    subst hlength
    cases s with
    | nil => exact nil
    | cons c t =>
      cases hc : isWord c with
      | false => exact gap c t hc (ih t.length (Nat.lt_succ_self _) t rfl)
      | true =>
        have hshorter := (List.dropWhile_sublist (p := isWord) (l := t)).length_le
        have hends : EndsWord (t.dropWhile isWord) := by
          intro d hd
          have hnot := List.head?_dropWhile_not isWord t
          rwa [Option.mem_def.mp hd] at hnot
        rw [← List.takeWhile_append_dropWhile (p := isWord) (l := t), ← List.cons_append]
        refine word _ _ (List.cons_ne_nil _ _) ?_ hends
          (ih _ (Nat.lt_succ_of_le hshorter) _ rfl)
        exact List.forall_mem_cons.mpr ⟨hc, fun d hd => List.mem_takeWhile_imp hd⟩

/-! ## 2. Numbers -/

/-- Whether a word is a number of two digits or more. -/
def isNumber (word : List Char) : Bool :=
  2 ≤ word.length && word.all isDigit

theorem isWord_of_isDigit (h : isDigit c = true) : isWord c = true := by
  simp [isWord, h]

theorem isDigit_eq_false (hc : isWord c = false) : isDigit c = false := by
  rw [← Bool.not_eq_true]
  exact fun h => absurd (isWord_of_isDigit h) (by simp [hc])

/-- No digit follows a word. -/
theorem EndsWord.takeWhile_isDigit (h : EndsWord rest) : rest.takeWhile isDigit = [] := by
  cases rest with
  | nil => rfl
  | cons c rest => rw [List.takeWhile_cons, isDigit_eq_false (h c rfl)]; rfl

/-- Behind the digits with which a word begins stands the rest of the word, if there is one. -/
theorem any_isWord_behind_digits (h : ∀ c ∈ word, isWord c = true) (hrest : EndsWord rest) :
    ((word ++ rest).dropWhile isDigit).head?.any isWord = !word.all isDigit := by
  induction word with
  | nil =>
    cases rest with
    | nil => rfl
    | cons c rest =>
      have hc : isWord c = false := hrest c rfl
      simp [isDigit_eq_false hc, hc]
  | cons c word ih =>
    rw [List.forall_mem_cons] at h
    rw [List.cons_append, List.dropWhile_cons, List.all_cons]
    cases isDigit c with
    | true => exact ih h.2
    | false => exact h.1

/-- No number begins where no word does. -/
theorem firstNumber?_cons_gap (hc : isWord c = false) (glued : Bool) (rest : List Char) :
    firstNumber? glued (c :: rest) = firstNumber? false rest := by
  simp [firstNumber?_cons, isDigit_eq_false hc, hc]

/-- **Inside a word nothing is found**, up to its end. -/
theorem firstNumber?_glued (h : ∀ c ∈ word, isWord c = true) (hrest : EndsWord rest) :
    firstNumber? true (word ++ rest) = firstNumber? false rest := by
  induction word with
  | nil =>
    cases rest with
    | nil => rfl
    | cons c rest =>
      have hc : isWord c = false := hrest c rfl
      rw [List.nil_append, firstNumber?_cons_gap hc, firstNumber?_cons_gap hc]
  | cons c word ih =>
    rw [List.forall_mem_cons] at h
    rw [List.cons_append, firstNumber?_cons, h.1, ← ih h.2]
    rfl

/-- **A word is found as a whole or not at all.** -/
theorem firstNumber?_append_word (hne : word ≠ []) (h : ∀ c ∈ word, isWord c = true)
    (hrest : EndsWord rest) : firstNumber? false (word ++ rest) =
      if isNumber word then some word else firstNumber? false rest := by
  have hbehind := any_isWord_behind_digits h hrest
  have hpassed : ∀ c t, word = c :: t →
      firstNumber? (isWord c) (t ++ rest) = firstNumber? false rest := by
    rintro c t rfl
    rw [List.forall_mem_cons] at h
    rw [h.1, firstNumber?_glued h.2 hrest]
  obtain ⟨c, t, rfl⟩ := List.exists_cons_of_ne_nil hne
  rw [List.cons_append] at hbehind ⊢
  rw [firstNumber?_cons, hbehind, hpassed c t rfl, isNumber]
  cases hall : (c :: t).all isDigit with
  | false => simp
  | true =>
    have hrun : (c :: (t ++ rest)).takeWhile isDigit = c :: t := by
      rw [← List.cons_append, List.takeWhile_append_of_pos (List.all_eq_true.mp hall),
        hrest.takeWhile_isDigit, List.append_nil]
    simp [hrun]

/-- **The first number of a text** is the first of its words that is one. -/
theorem firstNumber?_eq_find? (s : List Char) :
    firstNumber? false s = (words s).find? isNumber := by
  induction s using words_induction with
  | nil => rfl
  | gap c rest hc ih => rw [firstNumber?_cons_gap hc, words_cons hc, ih]
  | word word rest hne h hrest ih =>
    rw [firstNumber?_append_word hne h hrest, words_append_word hne h hrest, List.find?_cons, ih]
    cases isNumber word <;> rfl

/-! ## 3. The rule -/

/-- **The rule on numbers, by words**: a line without comments, ranges and prints has a word that is
a number of two digits or more, and the first such word is no plain number. -/
theorem magicNumber_iff (l : Line) :
    magicNumber l = true ↔
      (∀ mark ∈ ["//", "#", "range(", "print("], ¬ mark.toList <:+: l.text) ∧
        ∃ number, (words l.text).find? isNumber = some number ∧
          ∀ plain ∈ ["10", "100", "1000"], number ≠ plain.toList := by
  have hmark (mark : String) : mark.toList <:+: l.text ↔ Text.has l.text mark = true :=
    Text.occurs_iff.symm
  rw [magicNumber, firstNumber?_eq_find?]
  cases (words l.text).find? isNumber with
  | none => simp
  | some number => simp [plainNumbers, hmark, and_assoc]

/-- A letter beyond ASCII ends a word, an underscore does not, and the first number decides. -/
example : words "a1é42 x_7 100".toList = ["a1", "42", "x_7", "100"].map String.toList := by decide

end Critique.Catalog
