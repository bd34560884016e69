/-
# Notes on lines, read back

Behind the message of a group there is a note on its lines, in parentheses.  Some messages end in a
parenthesis themselves, and one begins with a number, so what is taken off a message has to be a
note and nothing else: `splitNote` looks behind the last opening parenthesis, and takes what it
finds there for a note only if the words are those of one.

* `splitNote_note`: behind any text at all, a note is taken off and says how many lines there are;
* `splitNote_message`: from a message that is always the same nothing is taken off;
* `splitNote_entry`: from the entry of a check its note is taken off, and nothing else.
-/
import Critique.Proofs.Report.Findings
import Critique.Proofs.Text.Lines
import Critique.Proofs.Text.Numeral

namespace Critique

open Grouping

/-! ## 1. Words -/

/-- The word that a note begins with if it names lines. -/
def linesWord : List Char := ['l', 'i', 'n', 'e', 's']

/-- The word between the two lines of a pair. -/
def andWord : List Char := ['a', 'n', 'd']

/-- The word behind the number of lines. -/
def occurrencesWord : List Char := ['o', 'c', 'c', 'u', 'r', 'r', 'e', 'n', 'c', 'e', 's', ')']

/-- How many lines the words of a note speak of: two that are named, the ones that are listed, or
the number that is given. -/
def countOf : List (List Char) → Option Nat
  | [] => none
  | word :: rest =>
    if word = linesWord then some (if rest[1]? = some andWord then 2 else rest.length)
    else if rest = [occurrencesWord] then
      some (Numeral.worth (Numeral.plainRun Text.asciiDigitValue? word).1)
    else none

/-- The text in front of a note, and how many lines the note speaks of; a text without a note has
neither. -/
def splitNote (s : List Char) : Option (List Char × Nat) :=
  match s.reverse.dropWhile (· ≠ '(') with
  | '(' :: ' ' :: front =>
    (countOf (Text.parts ' ' (s.reverse.takeWhile (· ≠ '(')).reverse)).map fun count =>
      (front.reverse, count)
  | _ => none

/-- What stands behind the last opening parenthesis is read as a note. -/
theorem splitNote_append (front : List Char) {inner : List Char} (h : '(' ∉ inner) :
    splitNote (front ++ ' ' :: '(' :: inner) =
      (countOf (Text.parts ' ' inner)).map fun count => (front, count) := by
  have hreverse : (front ++ ' ' :: '(' :: inner).reverse =
      inner.reverse ++ '(' :: ' ' :: front.reverse := by simp
  have hinner : ∀ c ∈ inner.reverse, decide (c ≠ '(') = true := by
    intro c hc
    have : c ≠ '(' := fun he => h (he ▸ List.mem_reverse.mp hc)
    simpa using this
  rw [splitNote, hreverse, List.dropWhile_append_of_pos hinner,
    List.takeWhile_append_of_pos hinner]
  simp

/-! ## 2. Notes -/

@[simp] theorem space_notMem_renderNat (n : Nat) : ' ' ∉ Numeral.renderNat n :=
  Numeral.notMem_renderNat rfl n

@[simp] theorem parenthesis_notMem_renderNat (n : Nat) : '(' ∉ Numeral.renderNat n :=
  Numeral.notMem_renderNat rfl n

theorem toList_text (n : Nat) : (Numeral.text n).toList = Numeral.renderNat n :=
  String.toList_ofList

/-- What begins with a numeral is no word that begins with a letter. -/
theorem renderNat_append_ne {c : Char} (hc : Text.asciiDigitValue? c = none) (n : Nat)
    (s t : List Char) : Numeral.renderNat n ++ s ≠ c :: t := by
  obtain ⟨d, ds, -, hd, -, hrender⟩ := Numeral.renderNat_eq_cons n
  rw [hrender]
  intro h
  exact Numeral.digitChar_ne hd hc (List.cons.inj h).1

/-- The lines of a list, as a note writes them. -/
def row (lines : List Nat) : List Char :=
  [',', ' '].intercalate (lines.map fun n => Numeral.renderNat n) ++ [')']

theorem row_cons_cons (m n : Nat) (rest : List Nat) :
    row (m :: n :: rest) = Numeral.renderNat m ++ [','] ++ ' ' :: row (n :: rest) := by
  simp [row, List.intercalate_cons_cons]

/-- The words of a list are as many as there are lines, and none of them is the word in the middle
of a pair. -/
theorem parts_row : ∀ {lines : List Nat}, lines ≠ [] →
    (Text.parts ' ' (row lines)).length = lines.length ∧
      (∀ word ∈ Text.parts ' ' (row lines), word ≠ andWord) ∧ '(' ∉ row lines
  | [n], _ => by
    have hspace : ' ' ∉ Numeral.renderNat n ++ [')'] := by simp
    have hrow : row [n] = Numeral.renderNat n ++ [')'] := by simp [row]
    rw [hrow, Text.parts_of_notMem hspace]
    refine ⟨rfl, fun word hword => ?_, by simp⟩
    rw [List.mem_singleton.mp hword]
    exact renderNat_append_ne rfl n _ _
  | m :: n :: rest, _ => by
    obtain ⟨hlength, hwords, hparenthesis⟩ := parts_row (List.cons_ne_nil n rest)
    have hspace : ' ' ∉ Numeral.renderNat m ++ [','] := by simp
    rw [row_cons_cons, Text.parts_append hspace]
    refine ⟨?_, ?_, ?_⟩
    · rw [List.length_cons, hlength]
      rfl
    · intro word hword
      rcases List.mem_cons.mp hword with rfl | hword
      · exact renderNat_append_ne rfl m _ _
      · exact hwords word hword
    · simp [hparenthesis]

theorem toList_note_row {lines : List Nat} (few : 3 ≤ lines.length) (many : lines.length ≤ 5) :
    (note lines).toList = ' ' :: '(' :: (linesWord ++ ' ' :: row lines) := by
  rw [← remark_eq_note (by omega), remark_row few many]
  simp [row, linesWord, toList_text, Function.comp_def]

theorem countOf_row {words : List (List Char)} (h : ∀ word ∈ words, word ≠ andWord) :
    countOf (linesWord :: words) = some words.length := by
  rw [countOf, if_pos rfl, if_neg]
  exact fun hand => h _ (List.mem_of_getElem? hand) rfl

theorem countOf_count (n : Nat) : countOf [Numeral.renderNat n, occurrencesWord] = some n := by
  have hstop : ∀ c ∈ ([] : List Char).head?, Text.asciiDigitValue? c = none := by simp
  have hrun := Numeral.plainRun_renderNat n hstop
  have hlines : Numeral.renderNat n ++ [] ≠ linesWord := renderNat_append_ne rfl n [] _
  rw [List.append_nil] at hrun hlines
  rw [countOf, if_neg hlines, if_pos rfl, hrun, Numeral.worth_digits]

/-- **A note is taken off** whatever text stands in front of it. -/
theorem splitNote_note (front : List Char) {lines : List Nat} (h : 2 ≤ lines.length) :
    splitNote (front ++ (note lines).toList) = some (front, lines.length) := by
  have hlines : ' ' ∉ linesWord := by decide
  rcases Nat.lt_or_ge 5 lines.length with hmany | hmany
  · have hnote : (note lines).toList =
        ' ' :: '(' :: (Numeral.renderNat lines.length ++ ' ' :: occurrencesWord) := by
      rw [← remark_eq_note h, remark_count hmany]
      simp [toList_text, occurrencesWord]
    have hinner : '(' ∉ Numeral.renderNat lines.length ++ ' ' :: occurrencesWord := by
      simp [occurrencesWord]
    rw [hnote, splitNote_append front hinner, Text.parts_append (space_notMem_renderNat _),
      Text.parts_of_notMem (by decide), countOf_count]
    rfl
  · rcases Nat.lt_or_ge 2 lines.length with hfew | hfew
    · have hne : lines ≠ [] := List.ne_nil_of_length_pos (by omega)
      obtain ⟨hlength, hwords, hparenthesis⟩ := parts_row hne
      have hinner : '(' ∉ linesWord ++ ' ' :: row lines := by simp [linesWord, hparenthesis]
      rw [toList_note_row hfew hmany, splitNote_append front hinner, Text.parts_append hlines,
        countOf_row hwords, hlength]
      rfl
    · match lines with
      | [a, b] =>
        have hnote : (note [a, b]).toList = ' ' :: '(' :: (linesWord ++
            ' ' :: (Numeral.renderNat a ++ ' ' :: (andWord ++
              ' ' :: (Numeral.renderNat b ++ [')'])))) := by
          simp [note, toList_text, linesWord, andWord]
        have hinner : '(' ∉ linesWord ++ ' ' :: (Numeral.renderNat a ++ ' ' :: (andWord ++
            ' ' :: (Numeral.renderNat b ++ [')']))) := by simp [linesWord, andWord]
        rw [hnote, splitNote_append front hinner, Text.parts_append hlines,
          Text.parts_append (space_notMem_renderNat a), Text.parts_append (by decide)]
        rfl

/-! ## 3. Messages without a note -/

/-- **From a message that is always the same nothing is taken off.** -/
theorem splitNote_message : ∀ m ∈ messages, splitNote m.toList = none := by
  have ofList : ∀ l : List Char, (splitNote l).isNone = true →
      splitNote (String.ofList l).toList = none := by
    intro l h
    rwa [String.toList_ofList, ← Option.isNone_iff_eq_none]
  simp only [messages, Catalog.all, Catalog.scriptRules, Catalog.pythonRules, Catalog.javaRules,
    Catalog.generalRules, remarks, Scan.wholeChecks, Insight.allHints, Insight.hintsFor,
    Language.isScript, Language.name, String.reduceBEq, Bool.or_false, if_true,
    Bool.false_eq_true, if_false, List.map_append, List.map_cons, List.map_nil,
    List.forall_mem_append, List.forall_mem_cons, List.not_mem_nil, false_imp_iff, implies_true,
    and_true]
  and_intros <;> exact ofList _ (by decide +kernel)

/-- An entry for one line is given no note. -/
theorem message_entry_of_lt {c : LineCheck} {lines : List Nat} (h : lines.length < 2) :
    (c.entry lines).message = c.template.message := by
  match lines with
  | [] => exact String.append_empty
  | [_] => exact String.append_empty

/-- **What is taken off the message of an entry** is the note that it was given, if it was given
one. -/
theorem splitNote_entry {c : LineCheck} (h : c.template.message ∈ messages) (lines : List Nat) :
    splitNote (c.entry lines).message.toList =
      if lines.length < 2 then none else some (c.template.message.toList, lines.length) := by
  rcases Nat.lt_or_ge lines.length 2 with hone | hmany
  · rw [if_pos hone, message_entry_of_lt hone]
    exact splitNote_message _ h
  · have hmessage : (c.entry lines).message = c.template.message ++ note lines := rfl
    rw [if_neg (Nat.not_lt.mpr hmany), hmessage, String.toList_append]
    exact splitNote_note _ hmany

/-- The remark on complexity has a number in parentheses, and this is no note. -/
theorem splitNote_complexityHints {code : String} {f : Finding}
    (hf : f ∈ Insight.complexityHints code) : splitNote f.message.toList = none := by
  unfold Insight.complexityHints at hf
  simp only at hf
  split at hf
  · generalize Insight.complexity code = n at hf
    obtain ⟨tail, htail, hparenthesis, hwords⟩ : ∃ tail,
        "Consider breaking into smaller functions.".toList = tail ∧ '(' ∉ tail ∧
          (Text.parts ' ' tail).length = 5 :=
      ⟨_, String.toList_ofList, by decide, by decide⟩
    have hmessage : f.message.toList = "Code complexity is high".toList ++
        ' ' :: '(' :: (Numeral.renderNat n ++ [')', '.'] ++ ' ' :: tail) := by
      have hopen : "Code complexity is high (" = "Code complexity is high" ++ " (" := rfl
      have hclose : "). Consider breaking into smaller functions." =
          "). " ++ "Consider breaking into smaller functions." := rfl
      rw [List.mem_singleton.mp hf]
      simp only [hopen, hclose, String.toList_append, toList_text, htail]
      simp
    have hinner : '(' ∉ Numeral.renderNat n ++ [')', '.'] ++ ' ' :: tail := by
      simp [hparenthesis]
    have hspace : ' ' ∉ Numeral.renderNat n ++ [')', '.'] := by simp
    have hlines : Numeral.renderNat n ++ [')', '.'] ≠ linesWord := renderNat_append_ne rfl n _ _
    have hrest : Text.parts ' ' tail ≠ [occurrencesWord] := by
      intro h
      rw [h] at hwords
      exact absurd hwords (by decide)
    rw [hmessage, splitNote_append _ hinner, Text.parts_append hspace, countOf, if_neg hlines,
      if_neg hrest]
    rfl
  · exact absurd hf List.not_mem_nil

end Critique
