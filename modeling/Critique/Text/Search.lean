/-
# Searching a text

A source is searched for fixed pieces of text. Everything here is one structural pass over a list
of characters:

* `occurs needle s`, and `has s piece` for a literal piece, ask whether a piece stands anywhere;
* `begins s piece` asks for it at the start, `hasBefore piece p s` in front of some character;
* `countWhere p s` counts the places from which a pattern matches;
* `count needle s` counts occurrences from the left that do not overlap;
* `replaceAll old new s` replaces those same occurrences;
* `parts separator s` cuts at every separator, and `splitLines s` at every line feed.

Main statements: `occurs_iff` (a piece occurs iff it is an infix), `countWhere_append_le` (text
added in front never lowers a count), `replaceAll_eq_self` (a text without the piece is left alone).
-/

namespace Critique.Text

/-! ## 1. Occurrence -/

/-- Whether `needle` stands somewhere in the text. -/
def occurs (needle : List Char) : List Char → Bool
  | [] => needle.isEmpty
  | c :: t => needle.isPrefixOf (c :: t) || occurs needle t

/-- Whether the piece stands somewhere in the text. -/
def has (s : List Char) (piece : String) : Bool :=
  occurs piece.toList s

/-- Whether the text begins with the piece. -/
def begins (s : List Char) (piece : String) : Bool :=
  piece.toList.isPrefixOf s

/-- Whether the piece stands somewhere with a character of `p` right behind it. -/
def hasBefore (piece : String) (p : Char → Bool) : List Char → Bool
  | [] => false
  | c :: t =>
    (begins (c :: t) piece && ((c :: t).drop piece.length).head?.any p) || hasBefore piece p t

/-- **A piece occurs exactly where it is an infix.** -/
theorem occurs_iff {needle s : List Char} : occurs needle s = true ↔ needle <:+: s := by
  induction s with
  | nil => cases needle <;> simp [occurs]
  | cons c t ih =>
    simp only [occurs, Bool.or_eq_true, List.isPrefixOf_iff_prefix, ih, List.infix_cons_iff]

/-! ## 2. Counting -/

/-- The number of places in the text from which `p` holds of what follows. -/
def countWhere (p : List Char → Bool) : List Char → Nat
  | [] => 0
  | c :: t => (if p (c :: t) then 1 else 0) + countWhere p t

/-- Text in front never lowers a count. -/
theorem countWhere_append_le (p : List Char → Bool) (a b : List Char) :
    countWhere p b ≤ countWhere p (a ++ b) := by
  induction a with
  | nil => simp
  | cons c t ih => simp only [List.cons_append, countWhere]; omega

/-- Occurrences from the left; `skip` characters still belong to the occurrence in hand. -/
def countSkipping (needle : List Char) : Nat → List Char → Nat
  | _, [] => 0
  | skip + 1, _ :: t => countSkipping needle skip t
  | 0, c :: t =>
    if needle.isPrefixOf (c :: t) then countSkipping needle (needle.length - 1) t + 1
    else countSkipping needle 0 t

/-- The number of occurrences of `needle`, taken from the left and without overlap. -/
def count (needle : List Char) (s : List Char) : Nat :=
  countSkipping needle 0 s

/-! ## 3. Replacing -/

/-- Replaces from the left; `skip` characters still belong to the occurrence in hand. -/
def replaceSkipping (old new : List Char) : Nat → List Char → List Char
  | _, [] => []
  | skip + 1, _ :: t => replaceSkipping old new skip t
  | 0, c :: t =>
    if old.isPrefixOf (c :: t) then new ++ replaceSkipping old new (old.length - 1) t
    else c :: replaceSkipping old new 0 t

/-- The text with `new` for every occurrence of `old`, taken from the left and without overlap;
what has been put in is not searched again. -/
def replaceAll (old new : String) (s : List Char) : List Char :=
  replaceSkipping old.toList new.toList 0 s

@[simp] theorem replaceAll_nil (old new : String) : replaceAll old new [] = [] := rfl

/-- A text in which the piece does not occur is left alone. -/
theorem replaceAll_eq_self {old new : String} {s : List Char} (h : has s old = false) :
    replaceAll old new s = s := by
  unfold replaceAll
  unfold has at h
  induction s with
  | nil => rfl
  | cons c t ih =>
    simp only [occurs, Bool.or_eq_false_iff] at h
    simp [replaceSkipping, h.1, ih h.2]

/-! ## 4. Parts and lines -/

/-- The parts of a text between separators: a text of `n` separators has `n + 1` parts, and the
empty text has one empty part. -/
def parts (separator : Char) : List Char → List (List Char)
  | [] => [[]]
  | c :: t =>
    if c = separator then [] :: parts separator t
    else
      match parts separator t with
      | [] => [[c]]
      | part :: rest => (c :: part) :: rest

/-- The lines of a text: it is cut at every line feed. -/
def splitLines (s : List Char) : List (List Char) :=
  parts '\n' s

theorem parts_ne_nil (separator : Char) (s : List Char) : parts separator s ≠ [] := by
  cases s with
  | nil => simp [parts]
  | cons c t =>
    by_cases h : c = separator
    · simp [parts, h]
    · simp only [parts, if_neg h]
      split <;> simp

theorem length_parts (separator : Char) (s : List Char) :
    (parts separator s).length = s.count separator + 1 := by
  induction s with
  | nil => rfl
  | cons c t ih =>
    by_cases h : c = separator
    · simp [parts, h, ih]
    · have hne := parts_ne_nil separator t
      simp only [parts, if_neg h]
      split
      · rename_i heq
        exact absurd heq hne
      · rename_i part rest heq
        rw [heq] at ih
        have hc : (c == separator) = false := by simpa using h
        simp only [List.length_cons, List.count_cons, hc] at ih ⊢
        simpa using ih

/-- The number of lines is one more than the number of line feeds. -/
theorem length_splitLines (s : List Char) : (splitLines s).length = s.count '\n' + 1 :=
  length_parts '\n' s

end Critique.Text
