/-
# White space

Two sets of characters count as empty in a source text, and they differ by four:

* `isSpace` is the `White_Space` property of the Unicode standard, the set around a numeral;
* `isBlank` adds the four information separators U+001C to U+001F, the set that lines, calls and
  leading blanks are judged by.

Main statements: `isBlank_of_isSpace` (the second set holds the first) and `strip_eq_self` (a text
with neither end in the set is its own strip).
-/

namespace Critique.Text

/-! ## 1. The two sets -/

/-- White space of the Unicode standard: twenty-five characters, none of them zero width. -/
def isSpace (c : Char) : Bool :=
  let n := c.toNat
  (9 ≤ n && n ≤ 13) || n == 0x20 || n == 0x85 || n == 0xA0 || n == 0x1680
    || (0x2000 ≤ n && n ≤ 0x200A) || n == 0x2028 || n == 0x2029 || n == 0x202F
    || n == 0x205F || n == 0x3000

/-- A blank: white space, or one of the information separators U+001C to U+001F. -/
def isBlank (c : Char) : Bool :=
  isSpace c || (0x1C ≤ c.toNat && c.toNat ≤ 0x1F)

theorem isBlank_of_isSpace {c : Char} (h : isSpace c = true) : isBlank c = true := by
  simp [isBlank, h]

/-! ## 2. Stripping the ends -/

/-- The text without the characters of `p` at its end. -/
def stripEnd (p : Char → Bool) (s : List Char) : List Char :=
  (s.reverse.dropWhile p).reverse

/-- The text without the characters of `p` at its two ends. -/
def stripBy (p : Char → Bool) (s : List Char) : List Char :=
  stripEnd p (s.dropWhile p)

/-- The text without the blanks at its two ends. -/
def strip (s : List Char) : List Char :=
  stripBy isBlank s

@[simp] theorem strip_nil : strip [] = [] := rfl

/-- A text whose first and last characters are no blanks is left as it is. -/
theorem strip_eq_self {s : List Char} (first : ∀ c ∈ s.head?, isBlank c = false)
    (last : ∀ c ∈ s.getLast?, isBlank c = false) : strip s = s := by
  have drop_self : ∀ t : List Char, (∀ c ∈ t.head?, isBlank c = false) →
      t.dropWhile isBlank = t := by
    intro t ht
    cases t with
    | nil => rfl
    | cons c t => simp [List.dropWhile, ht c (by simp)]
  unfold strip stripBy stripEnd
  rw [drop_self s first, drop_self s.reverse (by simpa using last), List.reverse_reverse]

end Critique.Text
