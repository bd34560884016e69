/-
# Complexity of joined sources

The branches of two sources are branches of the two put together, so nothing that is added around a
source makes it any simpler.  What the join has beyond them lies across the seam, and that is two
branches at most.

A branch word across the seam needs a parenthesis in the second source, and that is the first one
there, since nothing but words and blanks stands in front of it.  So all that can lie across the
seam ends at one place, and what ends at a place is told by its last word: of the single words, none
is the end of another, so one of them at most is counted, and beside it only `else if`
(`crossings_le_two`).  An operator across the seam takes a first source that ends in half of it, and
then no branch word crosses.

* `beginsCall_iff`: where a branch begins, said by words and blanks;
* `Spells.eq_of_suffix`: a branch is told by the place where it ends;
* `branches_append`: the branches of a join;
* `complexity_append`: its complexity.
-/
import Critique.Insight
import Critique.Proofs.Text.Seams
import Mathlib.Data.List.TakeWhile

namespace Critique.Insight

open Text

variable {words : List String} {u v s : List Char}

/-! ## 1. Words and blanks -/

/-- A word without blanks and parentheses. -/
def Solid (word : String) : Prop :=
  word ≠ "" ∧ word.toList.all (fun c => !isBlank c && c != '(') = true

instance (word : String) : Decidable (Solid word) := inferInstanceAs (Decidable (_ ∧ _))

/-- Whether a text is made of these words, with any blanks behind each. -/
def Spells : List String → List Char → Prop
  | [], u => u = []
  | word :: words, u => ∃ gap rest, (∀ c ∈ gap, isBlank c = true) ∧ Spells words rest ∧
      u = word.toList ++ (gap ++ rest)

theorem Solid.toList_ne_nil {word : String} (h : Solid word) : word.toList ≠ [] :=
  fun hnil => h.1 (String.toList_eq_nil_iff.mp hnil)

theorem Solid.of_mem {word : String} (h : Solid word) {c : Char} (hc : c ∈ word.toList) :
    isBlank c = false ∧ c ≠ '(' := by
  simpa using List.all_eq_true.mp h.2 c hc

/-- What is neither blank nor in a word is nowhere. -/
theorem Spells.notMem {c : Char} (h : Spells words u) (hblank : isBlank c = false)
    (hwords : ∀ word ∈ words, c ∉ word.toList) : c ∉ u := by
  induction words generalizing u with
  | nil =>
    obtain rfl : u = [] := h
    exact List.not_mem_nil
  | cons word words ih =>
    obtain ⟨gap, rest, hgap, hrest, rfl⟩ := h
    rw [List.forall_mem_cons] at hwords
    simp only [List.mem_append, not_or]
    refine ⟨hwords.1, fun hmem => ?_, ih hrest hwords.2⟩
    rw [hgap c hmem] at hblank
    exact absurd hblank (by decide)

/-- No blank stands in front of the words and a parenthesis. -/
theorem Spells.dropWhile_isBlank (h : Spells words u) (hsolid : ∀ word ∈ words, Solid word)
    (rest : List Char) : (u ++ '(' :: rest).dropWhile isBlank = u ++ '(' :: rest := by
  cases words with
  | nil =>
    obtain rfl : u = [] := h
    rfl
  | cons word words =>
    obtain ⟨gap, behind, -, -, rfl⟩ := h
    have hword := hsolid word List.mem_cons_self
    obtain ⟨c, t, hcons⟩ := List.exists_cons_of_ne_nil hword.toList_ne_nil
    have hc : isBlank c = false := (hword.of_mem (by simp [hcons])).1
    simp [hcons, hc]

/-- **Where a branch begins**, there are its words and blanks, and then a parenthesis. -/
theorem beginsCall_iff (hsolid : ∀ word ∈ words, Solid word) :
    beginsCall words s = true ↔ ∃ u rest, Spells words u ∧ s = u ++ '(' :: rest := by
  induction words generalizing s with
  | nil =>
    cases s with
    | nil => simp [beginsCall]
    | cons c t => simp [beginsCall, Spells]
  | cons word words ih =>
    rw [List.forall_mem_cons] at hsolid
    rw [beginsCall, Bool.and_eq_true, ih hsolid.2, begins, List.isPrefixOf_iff_prefix]
    constructor
    · rintro ⟨⟨t, rfl⟩, u, rest, hspells, hdrop⟩
      have hbehind : (word.toList ++ t).drop word.length = t := List.drop_left
      rw [hbehind] at hdrop
      refine ⟨word.toList ++ (t.takeWhile isBlank ++ u), rest,
        ⟨_, u, fun c hc => List.mem_takeWhile_imp hc, hspells, rfl⟩, ?_⟩
      rw [List.append_assoc, List.append_assoc, ← hdrop, List.takeWhile_append_dropWhile]
    · rintro ⟨_, rest, ⟨gap, u, hgap, hspells, rfl⟩, rfl⟩
      rw [List.append_assoc, List.append_assoc]
      refine ⟨List.prefix_append _ _, u, rest, hspells, ?_⟩
      have hbehind : (word.toList ++ (gap ++ (u ++ '(' :: rest))).drop word.length =
          gap ++ (u ++ '(' :: rest) := List.drop_left
      rw [hbehind, List.dropWhile_append_of_pos hgap, hspells.dropWhile_isBlank hsolid.2]

/-- Where a branch begins, it does so whatever follows. -/
theorem beginsCall_append (hsolid : ∀ word ∈ words, Solid word) (s behind : List Char)
    (h : beginsCall words s = true) : beginsCall words (s ++ behind) = true := by
  obtain ⟨u, rest, hspells, rfl⟩ := (beginsCall_iff hsolid).mp h
  exact (beginsCall_iff hsolid).mpr ⟨u, rest ++ behind, hspells, by simp⟩

/-! ## 2. Branch words across a seam -/

/-- The part of a text in front of its first parenthesis. -/
def lead (s : List Char) : List Char :=
  s.takeWhile (· != '(')

/-- **A branch across a seam** reaches to the first parenthesis behind it. -/
theorem spells_of_crosses (hsolid : ∀ word ∈ words, Solid word) {behind : List Char}
    (h : crosses (beginsCall words) behind s = true) : Spells words (s ++ lead behind) := by
  rw [crosses, Bool.and_eq_true, Bool.not_eq_true'] at h
  obtain ⟨u, rest, hspells, hjoin⟩ := (beginsCall_iff hsolid).mp h.1
  have hparen : '(' ∉ u :=
    hspells.notMem (by decide) fun word hword hmem => ((hsolid word hword).of_mem hmem).2 rfl
  have hcross : ∃ m, u = s ++ m ∧ behind = m ++ '(' :: rest := by
    rcases List.append_eq_append_iff.mp hjoin with ⟨m, hu, hbehind⟩ | ⟨m, hs, hm⟩
    · exact ⟨m, hu, hbehind⟩
    · cases m with
      | nil => exact ⟨[], by simpa using hs.symm, by simpa using hm.symm⟩
      | cons c m =>
        -- the parenthesis stands in the first text, so the branch does not need the second
        obtain ⟨rfl, -⟩ : '(' = c ∧ rest = m ++ behind := by simpa using hm
        have hinside := (beginsCall_iff hsolid).mpr ⟨u, m, hspells, hs⟩
        rw [hinside] at h
        exact absurd h.2 (by decide)
  obtain ⟨m, rfl, rfl⟩ := hcross
  have hlead : lead (m ++ '(' :: rest) = m := by
    have hm : ∀ c ∈ m, (c != '(') = true := fun c hc =>
      bne_iff_ne.mpr fun heq => hparen (List.mem_append_right s (heq ▸ hc))
    rw [lead, List.takeWhile_append_of_pos hm, List.takeWhile_cons]
    simp
  rwa [hlead]

/-- Blanks behind a word are stripped. -/
theorem stripEnd_gap {word : String} (hword : Solid word) (front : List Char) {gap : List Char}
    (hgap : ∀ c ∈ gap, isBlank c = true) :
    stripEnd isBlank (front ++ (word.toList ++ gap)) = front ++ word.toList := by
  obtain ⟨start, c, hlast⟩ := List.eq_nil_or_concat word.toList |>.resolve_left hword.toList_ne_nil
  have hc : isBlank c = false := (hword.of_mem (by simp [hlast])).1
  have hgap' : ∀ c ∈ gap.reverse, isBlank c = true := by simpa using hgap
  rw [← List.append_assoc, stripEnd, List.reverse_append, List.dropWhile_append_of_pos hgap', hlast]
  simp [hc]

/-- What ends alike behind the gaps of two words ends alike in front of them. -/
theorem append_eq_of_gaps {word word' : String} (hword : Solid word) (hword' : Solid word')
    {front gap gap' rest : List Char} (hgap : ∀ c ∈ gap, isBlank c = true)
    (hgap' : ∀ c ∈ gap', isBlank c = true)
    (h : front ++ (word.toList ++ (gap ++ rest)) = word'.toList ++ (gap' ++ rest)) :
    front ++ word.toList = word'.toList := by
  have hgaps : front ++ (word.toList ++ gap) = [] ++ (word'.toList ++ gap') :=
    (List.append_left_inj rest).mp (by simpa using h)
  have hstrip := congrArg (stripEnd isBlank) hgaps
  rwa [stripEnd_gap hword front hgap, stripEnd_gap hword' [] hgap'] at hstrip

/-- **A branch is told by the place where it ends.** -/
theorem Spells.eq_of_suffix (hsolid : ∀ word ∈ words, Solid word) (hu : Spells words u)
    (hv : Spells words v) (huv : u <:+ v) : u = v := by
  induction words generalizing u v with
  | nil =>
    obtain rfl : u = [] := hu
    exact hv.symm
  | cons word words ih =>
    rw [List.forall_mem_cons] at hsolid
    obtain ⟨gap, rest, hgap, hrest, rfl⟩ := hu
    obtain ⟨gap', rest', hgap', hrest', rfl⟩ := hv
    -- both rests end the longer text, so one of them ends the other
    have hends : rest <:+ word.toList ++ (gap' ++ rest') :=
      ((List.suffix_append gap rest).trans (List.suffix_append _ _)).trans huv
    have hends' : rest' <:+ word.toList ++ (gap' ++ rest') :=
      (List.suffix_append gap' rest').trans (List.suffix_append _ _)
    obtain rfl : rest = rest' := by
      rcases List.suffix_or_suffix_of_suffix hends hends' with h | h
      · exact ih hsolid.2 hrest hrest' h
      · exact (ih hsolid.2 hrest' hrest h).symm
    obtain ⟨front, hfront⟩ := huv
    have hword := append_eq_of_gaps hsolid.1 hsolid.1 hgap hgap' hfront
    obtain rfl : front = [] := List.append_left_eq_self.mp hword
    exact hfront

/-- Of two words that end at one place, one ends the other. -/
theorem Spells.suffix_of_suffix {word word' : String} (hword : Solid word) (hword' : Solid word')
    (hu : Spells [word] u) (hv : Spells [word'] v) (huv : u <:+ v) :
    word.toList <:+ word'.toList := by
  obtain ⟨gap, rest, hgap, rfl : rest = [], rfl⟩ := hu
  obtain ⟨gap', rest', hgap', rfl : rest' = [], rfl⟩ := hv
  obtain ⟨front, hfront⟩ := huv
  exact ⟨front, append_eq_of_gaps hword hword' hgap hgap' hfront⟩

/-! ## 3. How many branches cross -/

/-- The number of places in a text from which a branch reaches into what follows. -/
def crossing (words : List String) (a b : List Char) : Nat :=
  countWhere (crosses (beginsCall words) b) a

theorem exists_of_crossing_ne_zero (hsolid : ∀ word ∈ words, Solid word) {a b : List Char}
    (h : crossing words a b ≠ 0) : ∃ t, t <:+ a ∧ t ≠ [] ∧ Spells words (t ++ lead b) := by
  obtain ⟨t, ht, hne, hcross⟩ := exists_of_countWhere_ne_zero h
  exact ⟨t, ht, hne, spells_of_crosses hsolid hcross⟩

/-- Ends of a text, with the same behind them, end one another. -/
theorem suffix_or_suffix_append {t t' a : List Char} (ht : t <:+ a) (ht' : t' <:+ a)
    (b : List Char) : t ++ b <:+ t' ++ b ∨ t' ++ b <:+ t ++ b := by
  rcases List.suffix_or_suffix_of_suffix ht ht' with ⟨x, rfl⟩ | ⟨x, rfl⟩
  · exact .inl ⟨x, (List.append_assoc x t b).symm⟩
  · exact .inr ⟨x, (List.append_assoc x t' b).symm⟩

/-- A branch crosses a seam once at most. -/
theorem crossing_le_one (hsolid : ∀ word ∈ words, Solid word) (a b : List Char) :
    crossing words a b ≤ 1 := by
  refine countWhere_le_one fun t t' ht ht' hcross hcross' => ?_
  have hspells := spells_of_crosses hsolid hcross
  have hspells' := spells_of_crosses hsolid hcross'
  have heq : t ++ lead b = t' ++ lead b := by
    rcases suffix_or_suffix_append ht ht' (lead b) with h | h
    · exact hspells.eq_of_suffix hsolid hspells' h
    · exact (hspells'.eq_of_suffix hsolid hspells h).symm
  exact List.append_cancel_right heq

/-- The branches that are one word. -/
def singleWords : List String := ["if", "while", "for", "switch", "catch"]

/-- None of them ends another. -/
theorem singleWords_suffix : ∀ word ∈ singleWords, ∀ word' ∈ singleWords,
    word.toList <:+ word'.toList → word = word' := by
  decide

theorem solid_branchWords : ∀ words ∈ branchWords, ∀ word ∈ words, Solid word := by decide

theorem solid_singleWords : ∀ word ∈ singleWords, Solid word := by decide

/-- Two single words do not cross the same seam. -/
theorem eq_of_crossing {word word' : String} (hword : word ∈ singleWords)
    (hword' : word' ∈ singleWords) {a b : List Char} (h : crossing [word] a b ≠ 0)
    (h' : crossing [word'] a b ≠ 0) : word = word' := by
  have hsolid := solid_singleWords word hword
  have hsolid' := solid_singleWords word' hword'
  obtain ⟨t, ht, -, hspells⟩ := exists_of_crossing_ne_zero (by simpa using hsolid) h
  obtain ⟨t', ht', -, hspells'⟩ := exists_of_crossing_ne_zero (by simpa using hsolid') h'
  rcases suffix_or_suffix_append ht ht' (lead b) with hends | hends
  · exact singleWords_suffix _ hword _ hword'
      (hspells.suffix_of_suffix hsolid hsolid' hspells' hends)
  · exact (singleWords_suffix _ hword' _ hword
      (hspells'.suffix_of_suffix hsolid' hsolid hspells hends)).symm

/-- A sum of nothing but zeros. -/
theorem sum_map_eq_zero {α : Type} {l : List α} {f : α → Nat} (h : ∀ x ∈ l, f x = 0) :
    (l.map f).foldr (· + ·) 0 = 0 := by
  induction l with
  | nil => rfl
  | cons x l ih =>
    rw [List.forall_mem_cons] at h
    rw [List.map_cons, List.foldr_cons, h.1, ih h.2]

/-- Where each term is one at most and no two of them count, the sum is one at most. -/
theorem sum_map_le_one {α : Type} {l : List α} (hl : l.Nodup) {f : α → Nat}
    (each : ∀ x ∈ l, f x ≤ 1) (only : ∀ x ∈ l, ∀ y ∈ l, f x ≠ 0 → f y ≠ 0 → x = y) :
    (l.map f).foldr (· + ·) 0 ≤ 1 := by
  induction l with
  | nil => exact Nat.zero_le 1
  | cons x l ih =>
    rw [List.nodup_cons] at hl
    rw [List.forall_mem_cons] at each
    rw [List.map_cons, List.foldr_cons]
    by_cases hx : f x = 0
    · rw [hx, Nat.zero_add]
      exact ih hl.2 each.2 fun y hy z hz => only y (by simp [hy]) z (by simp [hz])
    · have hrest : ∀ y ∈ l, f y = 0 := by
        intro y hy
        by_contra hne
        exact hl.1 (only x (by simp) y (by simp [hy]) hx hne ▸ hy)
      rw [sum_map_eq_zero hrest]
      exact each.1

/-- The number of branch words of any kind that cross a seam. -/
def crossings (a b : List Char) : Nat :=
  (branchWords.map fun words => crossing words a b).foldr (· + ·) 0

/-- **Two branch words cross a seam at most.** -/
theorem crossings_le_two (a b : List Char) : crossings a b ≤ 2 := by
  have hsingle : (singleWords.map fun word => crossing [word] a b).foldr (· + ·) 0 ≤ 1 := by
    refine sum_map_le_one (by decide) (fun word hword => crossing_le_one ?_ a b)
      fun word hword word' hword' => eq_of_crossing hword hword'
    simpa using solid_singleWords word hword
  have helse := crossing_le_one (solid_branchWords ["else", "if"] (by decide)) a b
  simp only [singleWords, List.map_cons, List.map_nil, List.foldr_cons, List.foldr_nil] at hsingle
  simp only [crossings, branchWords, List.map_cons, List.map_nil, List.foldr_cons, List.foldr_nil]
  omega

/-- No part of an operator is in a branch word. -/
theorem operators_notMem : ∀ words ∈ branchWords, ∀ word ∈ words,
    '&' ∉ word.toList ∧ '|' ∉ word.toList := by
  decide

/-- Where a branch word crosses a seam, the first text does not end in half of an operator. -/
theorem getLast?_ne_of_crossing {a b : List Char} (hmem : words ∈ branchWords)
    (h : crossing words a b ≠ 0) : a.getLast? ≠ some '&' ∧ a.getLast? ≠ some '|' := by
  obtain ⟨t, ⟨front, rfl⟩, hne, hspells⟩ :=
    exists_of_crossing_ne_zero (solid_branchWords words hmem) h
  have hlast {c : Char} (hc : c ∉ t ++ lead b) : (front ++ t).getLast? ≠ some c := by
    intro heq
    rw [List.getLast?_append_of_ne_nil front hne] at heq
    exact hc (List.mem_append_left _ (List.mem_of_getLast? heq))
  have hwords := operators_notMem words hmem
  exact ⟨hlast (hspells.notMem (by decide) fun word hword => (hwords word hword).1),
    hlast (hspells.notMem (by decide) fun word hword => (hwords word hword).2)⟩

/-! ## 4. Complexity -/

/-- The number of branches that are words. -/
def wordBranches (s : List Char) : Nat :=
  (branchWords.map fun words => countWhere (beginsCall words) s).foldr (· + ·) 0

theorem branches_eq (s : List Char) :
    branches s = wordBranches s + (count ['&', '&'] s + count ['|', '|'] s) := rfl

/-- The branch words of a join are those of its parts and those that cross the seam. -/
theorem wordBranches_append (a b : List Char) :
    wordBranches (a ++ b) = wordBranches a + crossings a b + wordBranches b := by
  have hjoin : ∀ words ∈ branchWords, countWhere (beginsCall words) (a ++ b) =
      countWhere (beginsCall words) a + crossing words a b + countWhere (beginsCall words) b :=
    fun words hmem => countWhere_append (beginsCall_append (solid_branchWords words hmem)) a b
  rw [wordBranches, List.map_congr_left hjoin]
  simp only [wordBranches, crossings, branchWords, List.map_cons, List.map_nil, List.foldr_cons,
    List.foldr_nil]
  omega

/-- **The branches of a join** are those of its parts and two more at most. -/
theorem branches_append (a b : List Char) :
    branches a + branches b ≤ branches (a ++ b) ∧
      branches (a ++ b) ≤ branches a + branches b + 2 := by
  have hwords := wordBranches_append a b
  have hand := count_pair_append '&' a b
  have hor := count_pair_append '|' a b
  have hseam : crossings a b + ((if a.getLast? = some '&' then 1 else 0)
      + if a.getLast? = some '|' then 1 else 0) ≤ 2 := by
    by_cases hcross : ∃ words ∈ branchWords, crossing words a b ≠ 0
    · obtain ⟨words, hmem, hne⟩ := hcross
      obtain ⟨hand, hor⟩ := getLast?_ne_of_crossing hmem hne
      rw [if_neg hand, if_neg hor]
      exact crossings_le_two a b
    · have hzero : ∀ words ∈ branchWords, crossing words a b = 0 := fun words hmem =>
        by_contra fun hne => hcross ⟨words, hmem, hne⟩
      have hnone : crossings a b = 0 := sum_map_eq_zero hzero
      rw [hnone]
      split <;> split <;> omega
  simp only [branches_eq]
  omega

/-- Both may be there: a branch of two words that is cut behind them. -/
example : branches "else if".toList = 0 ∧ branches "(x)".toList = 0 ∧
    branches ("else if".toList ++ "(x)".toList) = 2 := by decide

theorem complexityHints_ne_nil_iff {code : String} :
    complexityHints code ≠ [] ↔ complexityLimit < complexity code := by
  rw [complexityHints]
  split <;> simp_all

/-- **Complexity is nearly additive**: two sources put together have the branches of both and two more
at most.  So it is never lowered by what is added around a source, and a source that is too complex
stays so. -/
theorem complexity_append (a b : String) :
    (complexity a - 1) + (complexity b - 1) ≤ complexity (a ++ b) - 1 ∧
      complexity (a ++ b) - 1 ≤ (complexity a - 1) + (complexity b - 1) + 2 ∧
      ∀ front behind : String, complexity a ≤ complexity (front ++ a ++ behind) ∧
        (complexityHints a ≠ [] → complexityHints (front ++ a ++ behind) ≠ []) := by
  have hbranches (a b : String) := branches_append a.toList b.toList
  simp only [← String.toList_append] at hbranches
  refine ⟨(hbranches a b).1, (hbranches a b).2, fun front behind => ?_⟩
  have hhigher : complexity a ≤ complexity (front ++ a ++ behind) := by
    have hfront := (hbranches front a).1
    have hbehind := (hbranches (front ++ a) behind).1
    simp only [complexity]
    omega
  refine ⟨hhigher, fun h => ?_⟩
  rw [complexityHints_ne_nil_iff] at h ⊢
  exact h.trans_le hhigher

/-- A source of ten operators, with half of one behind it. -/
theorem complexity_append_of_ten :
    let code := "&&&&&&&&&&&&&&&&&&&&"
    complexityHints code ≠ [] ∧ complexityHints ("// " ++ code ++ "&") ≠ [] := by
  intro code
  have h : complexityHints code ≠ [] := complexityHints_ne_nil_iff.mpr (by decide)
  exact ⟨h, ((complexity_append code "").2.2 "// " "&").2 h⟩

end Critique.Insight
