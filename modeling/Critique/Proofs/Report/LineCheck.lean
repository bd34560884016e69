/-
# Checks of single lines, grouped

Rules and hints look at one line after the other, and on each line they are tried in order; what
they find is then grouped by message.  A `LineCheck` is what the two have in common, and `entries`
says what is shown of a list of checks: one entry for each check that fires somewhere, by the first
line on which it fires, and by the order in which checks are tried where that is one line.

The order is the point of the proof.  The findings stand in ascending order of line and, on a line,
of position in the list of checks (`pairwise_hits`).  The findings that come first in their group
are a sublist of them and so stand in the same order, and no other list of the same findings does.

* `ofKey_hits`: the findings of one check are those on the lines on which it fires;
* `firsts_hits`: the first findings of the checks, in the order of `ranked`;
* `shown_hits`: what is shown of the findings is `entries`.
-/
import Critique.Proofs.Grouping
import Critique.Text.Search
import Mathlib.Data.List.Sigma

namespace Critique

open Grouping

/-! ## 1. Checks -/

/-- A check of single lines: whether it fires on the line of a number, and what it finds, whatever
the line. -/
structure LineCheck where
  fires : Nat → List Char → Bool
  template : Finding

namespace LineCheck

/-- What a check finds on a line. -/
def finding (c : LineCheck) (number : Nat) : Finding :=
  { c.template with line := number }

/-- The numbers of the lines on which a check fires; the first line has the number `number`. -/
def linesFrom (c : LineCheck) (number : Nat) (texts : List (List Char)) : List Nat :=
  ((texts.zipIdx number).filter fun line => c.fires line.2 line.1).map Prod.snd

/-- What checks find on lines, the first of which has the number `number`. -/
def hitsFrom (checks : List LineCheck) (number : Nat) (texts : List (List Char)) : List Finding :=
  (texts.zipIdx number).flatMap fun line =>
    (checks.filter fun c => c.fires line.2 line.1).map fun c => c.finding line.2

/-- Whether the first check, given with its position, comes before the second: it fires on an
earlier line, or on the same line and is tried no later. -/
def sooner (lines : LineCheck → List Nat) (a b : LineCheck × Nat) : Bool :=
  (lines a.1).headD 0 < (lines b.1).headD 0 ||
    ((lines a.1).headD 0 == (lines b.1).headD 0 && decide (a.2 ≤ b.2))

/-- The checks that fire on some line, by the first such line and their position. -/
def ranked (lines : LineCheck → List Nat) (checks : List LineCheck) : List LineCheck :=
  ((checks.zipIdx.filter fun c => lines c.1 ≠ []).mergeSort (sooner lines)).map Prod.fst

/-- What is shown of a check that fires on these lines. -/
def entry (c : LineCheck) (lines : List Nat) : Finding :=
  { c.template with line := lines.headD 0, message := c.template.message ++ note lines }

/-! ## 2. Lines -/

variable {checks : List LineCheck} {number : Nat} {texts : List (List Char)}

theorem linesFrom_cons (c : LineCheck) (number : Nat) (text : List Char)
    (texts : List (List Char)) :
    c.linesFrom number (text :: texts) =
      (if c.fires number text then [number] else []) ++ c.linesFrom (number + 1) texts := by
  rw [linesFrom, List.zipIdx_cons, List.filter_cons]
  split <;> rfl

theorem hitsFrom_cons (checks : List LineCheck) (number : Nat) (text : List Char)
    (texts : List (List Char)) :
    hitsFrom checks number (text :: texts) =
      ((checks.filter fun c => c.fires number text).map fun c => c.finding number) ++
        hitsFrom checks (number + 1) texts := rfl

/-- The lines on which a check fires are in ascending order. -/
theorem pairwise_linesFrom (c : LineCheck) (number : Nat) (texts : List (List Char)) :
    (c.linesFrom number texts).Pairwise (· < ·) := by
  have hall : ((texts.zipIdx number).map Prod.snd).Pairwise (· < ·) := by
    rw [List.zipIdx_map_snd]
    exact List.pairwise_lt_range'
  exact hall.sublist (List.filter_sublist.map _)

theorem mem_hits {f : Finding} (h : f ∈ hitsFrom checks number texts) :
    number ≤ f.line ∧ ∃ c ∈ checks, f = c.finding f.line := by
  obtain ⟨⟨text, n⟩, hline, hf⟩ := List.mem_flatMap.mp h
  obtain ⟨c, hc, rfl⟩ := List.mem_map.mp hf
  refine ⟨?_, c, (List.mem_filter.mp hc).1, rfl⟩
  exact (List.mem_zipIdx hline).1

/-- Nothing is found beyond the last line. -/
theorem line_lt_of_mem_hits {f : Finding} (h : f ∈ hitsFrom checks number texts) :
    f.line < number + texts.length := by
  obtain ⟨⟨text, n⟩, hline, hf⟩ := List.mem_flatMap.mp h
  obtain ⟨c, -, rfl⟩ := List.mem_map.mp hf
  exact (List.mem_zipIdx hline).2.1

/-! ## 3. The findings of one check -/

/-- On one line, a check finds one thing or nothing. -/
theorem ofKey_line (distinct : (checks.map fun c => c.template.key).Nodup) {c : LineCheck}
    (hc : c ∈ checks) (fires : LineCheck → Bool) (number : Nat) :
    ofKey c.template.key ((checks.filter fires).map fun c => c.finding number) =
      if fires c then [c.finding number] else [] := by
  have hkeys : (((checks.filter fires).map fun c => c.finding number).map Finding.key).Nodup := by
    rw [List.map_map]
    exact (List.filter_sublist.map _).nodup distinct
  split
  · rename_i hfires
    exact ofKey_of_nodup hkeys
      (List.mem_map_of_mem (f := fun c => c.finding number) (List.mem_filter.mpr ⟨hc, hfires⟩))
  · rename_i hfires
    refine ofKey_eq_nil fun f hf hkey => hfires ?_
    obtain ⟨d, hd, rfl⟩ := List.mem_map.mp hf
    obtain ⟨hd, hfires⟩ := List.mem_filter.mp hd
    rwa [← List.inj_on_of_nodup_map distinct hd hc hkey]

/-- **The findings of one check** are those on the lines on which it fires. -/
theorem ofKey_hits (distinct : (checks.map fun c => c.template.key).Nodup) {c : LineCheck}
    (hc : c ∈ checks) (number : Nat) (texts : List (List Char)) :
    ofKey c.template.key (hitsFrom checks number texts) =
      (c.linesFrom number texts).map c.finding := by
  induction texts generalizing number with
  | nil => rfl
  | cons text texts ih =>
    rw [hitsFrom_cons, linesFrom_cons, ofKey_append, ih, List.map_append,
      ofKey_line distinct hc (fun c => c.fires number text)]
    split <;> rfl

/-! ## 4. The order of the findings -/

/-- The position of the check that finds things of a key. -/
def rank (checks : List LineCheck) (key : String × String) : Nat :=
  (checks.map fun c => c.template.key).idxOf key

/-- Whether the first finding comes before the second: on an earlier line, or on the same line and
from an earlier check. -/
def Before (checks : List LineCheck) (f g : Finding) : Prop :=
  f.line < g.line ∨ (f.line = g.line ∧ rank checks f.key < rank checks g.key)

theorem pairwise_rank (distinct : (checks.map fun c => c.template.key).Nodup) :
    checks.Pairwise fun a b => rank checks a.template.key < rank checks b.template.key := by
  have hkeys : (checks.map fun c => c.template.key).Pairwise fun a b =>
      rank checks a < rank checks b := by
    refine List.pairwise_iff_getElem.mpr fun i j hi hj hij => ?_
    rwa [rank, rank, distinct.idxOf_getElem, distinct.idxOf_getElem]
  exact (List.pairwise_map (R := fun a b => rank checks a < rank checks b)).mp hkeys

/-- **The findings are in ascending order** of line and of check. -/
theorem pairwise_hits (distinct : (checks.map fun c => c.template.key).Nodup) (number : Nat)
    (texts : List (List Char)) : (hitsFrom checks number texts).Pairwise (Before checks) := by
  induction texts generalizing number with
  | nil => exact List.Pairwise.nil
  | cons text texts ih =>
    rw [hitsFrom_cons]
    refine List.pairwise_append.mpr ⟨?_, ih (number + 1), ?_⟩
    · refine List.pairwise_map.mpr (((pairwise_rank distinct).filter _).imp ?_)
      exact fun hrank => .inr ⟨rfl, hrank⟩
    · intro f hf g hg
      obtain ⟨c, -, rfl⟩ := List.mem_map.mp hf
      exact .inl (mem_hits hg).1

/-- Ranking checks leaves out those that fire nowhere. -/
theorem ranked_perm (lines : LineCheck → List Nat) (checks : List LineCheck) :
    (ranked lines checks).Perm (checks.filter fun c => lines c ≠ []) := by
  have hpositions : ((checks.zipIdx.filter fun c => lines c.1 ≠ []).map Prod.fst) =
      checks.filter fun c => lines c ≠ [] := by
    have hfilter := List.filter_map (f := Prod.fst) (p := fun c => decide (lines c ≠ []))
      (l := checks.zipIdx)
    rw [List.zipIdx_map_fst] at hfilter
    rw [hfilter]
    rfl
  rw [← hpositions]
  exact (List.mergeSort_perm _ _).map Prod.fst

theorem mem_ranked {lines : LineCheck → List Nat} {c : LineCheck} :
    c ∈ ranked lines checks ↔ c ∈ checks ∧ lines c ≠ [] := by
  rw [(ranked_perm lines checks).mem_iff, List.mem_filter, decide_eq_true_iff]

theorem sooner_iff {lines : LineCheck → List Nat} {a b : LineCheck × Nat} :
    sooner lines a b = true ↔ (lines a.1).headD 0 < (lines b.1).headD 0 ∨
      ((lines a.1).headD 0 = (lines b.1).headD 0 ∧ a.2 ≤ b.2) := by
  simp [sooner]

/-- A check that is given with its position is where it is ranked. -/
theorem rank_of_mem_zipIdx (distinct : (checks.map fun c => c.template.key).Nodup)
    {c : LineCheck × Nat} (hc : c ∈ checks.zipIdx) : rank checks c.1.template.key = c.2 := by
  obtain ⟨hi, hget⟩ := List.getElem?_eq_some_iff.mp (List.mem_zipIdx_iff_getElem?.mp hc)
  have hbound : c.2 < (checks.map fun c => c.template.key).length := by simpa using hi
  have hkey : c.1.template.key = (checks.map fun c => c.template.key)[c.2] := by
    rw [List.getElem_map, hget]
  rw [rank, hkey, distinct.idxOf_getElem]

/-- Ranked checks are in ascending order of their first lines and of their positions. -/
theorem pairwise_ranked (distinct : (checks.map fun c => c.template.key).Nodup)
    (lines : LineCheck → List Nat) :
    ((ranked lines checks).map fun c => c.finding ((lines c).headD 0)).Pairwise
      (Before checks) := by
  have htrans : ∀ a b c, sooner lines a b = true → sooner lines b c = true →
      sooner lines a c = true := by
    intro a b c hab hbc
    rw [sooner_iff] at hab hbc ⊢
    omega
  have htotal : ∀ a b, (sooner lines a b || sooner lines b a) = true := by
    intro a b
    rw [Bool.or_eq_true, sooner_iff, sooner_iff]
    omega
  generalize hfiring : (checks.zipIdx.filter fun c => lines c.1 ≠ []) = firing
  have hsublist : firing.Sublist checks.zipIdx := hfiring ▸ List.filter_sublist
  have hpositions : ((firing.mergeSort (sooner lines)).map Prod.snd).Nodup := by
    refine ((List.mergeSort_perm _ _).map Prod.snd).nodup_iff.mpr ?_
    exact (hsublist.map Prod.snd).nodup (List.nodup_zipIdx_map_snd checks)
  have hsorted := (List.pairwise_mergeSort htrans htotal firing).and (List.pairwise_map.mp hpositions)
  have hrank : ∀ c ∈ firing.mergeSort (sooner lines), rank checks c.1.template.key = c.2 :=
    fun c hc => rank_of_mem_zipIdx distinct (hsublist.subset (List.mem_mergeSort.mp hc))
  rw [ranked, hfiring, List.map_map]
  refine List.pairwise_map.mpr (hsorted.imp_of_mem fun {a b} ha hb hab => ?_)
  rcases sooner_iff.mp hab.1 with hline | ⟨hline, hle⟩
  · exact .inl hline
  · refine .inr ⟨hline, ?_⟩
    show rank checks a.1.template.key < rank checks b.1.template.key
    rw [hrank a ha, hrank b hb]
    exact Nat.lt_of_le_of_ne hle hab.2

/-! ## 5. What is shown -/

/-- Nothing comes before itself. -/
theorem Before.ne {f g : Finding} (h : Before checks f g) : f ≠ g := by
  rintro rfl
  rcases h with hline | ⟨-, hrank⟩
  · exact Nat.lt_irrefl _ hline
  · exact Nat.lt_irrefl _ hrank

/-- The first finding of a check that fires somewhere is the one on its first line. -/
theorem mem_firsts_hits (distinct : (checks.map fun c => c.template.key).Nodup) {f : Finding} :
    f ∈ firsts (hitsFrom checks number texts) ↔
      ∃ c ∈ checks, c.linesFrom number texts ≠ [] ∧
        c.finding ((c.linesFrom number texts).headD 0) = f := by
  rw [mem_firsts]
  constructor
  · intro hhead
    obtain ⟨-, c, hc, hf⟩ := mem_hits (List.mem_of_mem_filter (List.mem_of_head? hhead))
    have hkey : f.key = c.template.key := by
      rw [hf]
      rfl
    rw [hkey, ofKey_hits distinct hc] at hhead
    cases hlines : c.linesFrom number texts with
    | nil => simp [hlines] at hhead
    | cons n rest =>
      refine ⟨c, hc, by simp [hlines], ?_⟩
      simpa [hlines] using hhead
  · rintro ⟨c, hc, hlines, rfl⟩
    change (ofKey c.template.key _).head? = _
    rw [ofKey_hits distinct hc]
    cases hcases : c.linesFrom number texts with
    | nil => exact absurd hcases hlines
    | cons n rest => rfl

/-- **The first findings of the checks**, in the order of the checks' first lines. -/
theorem firsts_hits (distinct : (checks.map fun c => c.template.key).Nodup) (number : Nat)
    (texts : List (List Char)) :
    firsts (hitsFrom checks number texts) =
      (ranked (fun c => c.linesFrom number texts) checks).map fun c =>
        c.finding ((c.linesFrom number texts).headD 0) := by
  have hfirsts : (firsts (hitsFrom checks number texts)).Pairwise (Before checks) :=
    (pairwise_hits distinct number texts).sublist (firsts_sublist _)
  have hranked := pairwise_ranked distinct fun c => c.linesFrom number texts
  -- no two findings come before one another, so the order leaves no choice
  refine List.Perm.eq_of_pairwise (fun f g _ _ hfg hgf => ?_) hfirsts hranked ?_
  · unfold Before at hfg hgf
    omega
  · refine (List.perm_ext_iff_of_nodup (hfirsts.imp Before.ne) (hranked.imp Before.ne)).mpr ?_
    intro f
    rw [mem_firsts_hits distinct, List.mem_map]
    simp only [mem_ranked, and_assoc]

/-- **What is shown of the findings** is one entry for each check that fires. -/
theorem shown_hits (distinct : (checks.map fun c => c.template.key).Nodup) (number : Nat)
    (texts : List (List Char)) :
    shown (hitsFrom checks number texts) =
      (ranked (fun c => c.linesFrom number texts) checks).map fun c =>
        c.entry (c.linesFrom number texts) := by
  rw [shown_eq, firsts_hits distinct, List.filterMap_map, ← List.filterMap_eq_map]
  refine List.filterMap_congr fun c hc => ?_
  obtain ⟨hc, hlines⟩ := mem_ranked.mp hc
  have hkey : (c.finding ((c.linesFrom number texts).headD 0)).key = c.template.key := rfl
  rw [Function.comp_apply, hkey, ofKey_hits distinct hc]
  exact shownOf?_lines c.template hlines (pairwise_linesFrom c number texts)

end LineCheck

end Critique
