/-
# What grouping does

The groups are made in one pass that puts every finding into the group of its key.  Read from the
front this is a recursion: the first finding takes all findings of its key with it, and the others
are gathered as if these had not been there (`gather_cons`).  So the groups are the findings of each
key, in the order in which the keys were first seen (`gather_eq`), and the first finding of each key
leads its group (`firsts`).

Findings of different keys do not meet.  Of two lists without a common key the one is shown behind
the other (`shown_append`), and the lists without repeated keys are those that are shown as they are
(`shown_eq_self_iff`).  Whether the lines have numerals is no concern here; where they have, what is
shown is what grouping gives.

* `gather_eq` and `shown_eq`: the groups, and what is shown of them;
* `shown_append`: lists without a common key are shown separately;
* `shownOf?_lines`: what is shown of one message on several lines.
-/
import Critique.Grouping
import Mathlib.Data.List.Nodup

namespace Critique.Grouping

/-! ## 1. The first finding of each key -/

/-- The findings of a key, in their order. -/
def ofKey (key : String × String) (fs : List Finding) : List Finding :=
  fs.filter fun f => f.key = key

theorem ofKey_cons_of_eq {key : String × String} {f : Finding} (h : f.key = key)
    (fs : List Finding) : ofKey key (f :: fs) = f :: ofKey key fs :=
  List.filter_cons_of_pos (by simpa using h)

theorem ofKey_cons_of_ne {key : String × String} {f : Finding} (h : f.key ≠ key)
    (fs : List Finding) : ofKey key (f :: fs) = ofKey key fs :=
  List.filter_cons_of_neg (by simpa using h)

theorem ofKey_append (key : String × String) (fs gs : List Finding) :
    ofKey key (fs ++ gs) = ofKey key fs ++ ofKey key gs :=
  List.filter_append fs gs

theorem ofKey_eq_nil {key : String × String} {fs : List Finding} (h : ∀ f ∈ fs, f.key ≠ key) :
    ofKey key fs = [] :=
  List.filter_eq_nil_iff.mpr fun f hf => by simpa using h f hf

/-- A key that is seen is the key of some finding. -/
theorem ofKey_ne_nil {fs : List Finding} {f : Finding} (h : f ∈ fs) : ofKey f.key fs ≠ [] :=
  List.ne_nil_of_mem (List.mem_filter.mpr ⟨h, by simp⟩)

/-- The first finding of each key, in the order in which the keys were first seen. -/
def firsts : List Finding → List Finding
  | [] => []
  | f :: fs => f :: (firsts fs).filter fun g => g.key ≠ f.key

theorem firsts_sublist (fs : List Finding) : (firsts fs).Sublist fs := by
  induction fs with
  | nil => exact List.Sublist.refl _
  | cons f fs ih => exact (List.filter_sublist.trans ih).cons_cons f

/-- Dropping whole keys drops their first findings and no others. -/
theorem firsts_filter (p : String × String → Bool) (fs : List Finding) :
    firsts (fs.filter fun f => p f.key) = (firsts fs).filter fun f => p f.key := by
  induction fs with
  | nil => rfl
  | cons f fs ih =>
    rw [firsts, List.filter_cons, List.filter_cons, List.filter_filter]
    by_cases hf : p f.key = true
    · rw [if_pos hf, if_pos hf, firsts, ih, List.filter_filter]
      simp only [Bool.and_comm]
    · rw [if_neg hf, if_neg hf, ih]
      refine List.filter_congr fun g _ => ?_
      by_cases hg : g.key = f.key
      · simp [hg, hf]
      · simp [hg]

theorem mem_firsts {fs : List Finding} {f : Finding} :
    f ∈ firsts fs ↔ (ofKey f.key fs).head? = some f := by
  induction fs with
  | nil => simp [firsts, ofKey]
  | cons g fs ih =>
    rw [firsts, List.mem_cons, List.mem_filter, ih]
    by_cases hg : g.key = f.key
    · rw [ofKey_cons_of_eq hg]
      simp [hg, eq_comm]
    · have hne : f ≠ g := fun h => hg (h ▸ rfl)
      rw [ofKey_cons_of_ne hg]
      simp [hne, Ne.symm hg]

theorem nodup_keys_firsts (fs : List Finding) : ((firsts fs).map Finding.key).Nodup := by
  induction fs with
  | nil => exact List.nodup_nil
  | cons f fs ih =>
    rw [firsts, List.map_cons, List.nodup_cons]
    refine ⟨?_, (List.filter_sublist.map _).nodup ih⟩
    intro hmem
    obtain ⟨g, hg, hkey⟩ := List.mem_map.mp hmem
    exact absurd hkey (by simpa using (List.mem_filter.mp hg).2)

/-- Findings without repeated keys are all the first of their key. -/
theorem firsts_eq_self {fs : List Finding} (h : (fs.map Finding.key).Nodup) : firsts fs = fs := by
  induction fs with
  | nil => rfl
  | cons f fs ih =>
    rw [List.map_cons, List.nodup_cons] at h
    rw [firsts, ih h.2, List.filter_eq_self.mpr]
    intro g hg
    have : g.key ≠ f.key := fun hkey => h.1 (hkey ▸ List.mem_map_of_mem hg)
    simpa using this

/-- Where the second list has no key of the first, its first findings come after those of the
first list. -/
theorem firsts_append {fs gs : List Finding} (h : ∀ f ∈ fs, ∀ g ∈ gs, g.key ≠ f.key) :
    firsts (fs ++ gs) = firsts fs ++ firsts gs := by
  induction fs with
  | nil => rfl
  | cons f fs ih =>
    rw [List.forall_mem_cons] at h
    have hkept : (firsts gs).filter (fun g => g.key ≠ f.key) = firsts gs :=
      List.filter_eq_self.mpr fun g hg => by simpa using h.1 g ((firsts_sublist gs).subset hg)
    rw [List.cons_append, firsts, firsts, ih h.2, List.filter_append, hkept, List.cons_append]

/-! ## 2. The groups -/

/-- A group that is there takes the findings of its key, the others go on. -/
theorem foldl_insert (f : Finding) (group : List Finding) (groups : List (List Finding))
    (fs : List Finding) :
    fs.foldl (fun groups g => insert g groups) ((f :: group) :: groups) =
      (f :: group ++ ofKey f.key fs) ::
        (fs.filter fun g => g.key ≠ f.key).foldl (fun groups g => insert g groups) groups := by
  induction fs generalizing group groups with
  | nil => simp [ofKey]
  | cons g fs ih =>
    by_cases hg : g.key = f.key
    · rw [List.foldl_cons, insert, if_pos (by simp [hg]), List.cons_append, ih,
        ofKey_cons_of_eq hg, List.filter_cons_of_neg (by simpa using hg)]
      simp
    · rw [List.foldl_cons, insert, if_neg (by simpa using Ne.symm hg), ih, ofKey_cons_of_ne hg,
        List.filter_cons_of_pos (by simpa using hg), List.foldl_cons]

/-- The first finding takes all findings of its key with it. -/
theorem gather_cons (f : Finding) (fs : List Finding) :
    gather (f :: fs) =
      (f :: ofKey f.key fs) :: gather (fs.filter fun g => g.key ≠ f.key) :=
  foldl_insert f [] [] fs

/-- **The groups are the findings of each key**, in the order in which the keys were first seen. -/
theorem gather_eq : ∀ fs : List Finding, gather fs = (firsts fs).map fun f => ofKey f.key fs
  | [] => rfl
  | f :: fs => by
    have ih := gather_eq (fs.filter fun g => g.key ≠ f.key)
    have hfirsts := firsts_filter (fun key => decide (key ≠ f.key)) fs
    rw [gather_cons, ih, hfirsts, firsts, List.map_cons]
    congr 1
    · rw [ofKey_cons_of_eq rfl]
    · refine List.map_congr_left fun g hg => ?_
      have hkey : g.key ≠ f.key := by simpa using (List.mem_filter.mp hg).2
      rw [ofKey_cons_of_ne (Ne.symm hkey), ofKey, ofKey, List.filter_filter]
      refine List.filter_congr fun x _ => ?_
      by_cases hx : x.key = g.key
      · simp [hx, hkey]
      · simp [hx]
termination_by fs => fs.length
decreasing_by exact Nat.lt_succ_of_le (List.length_filter_le _ _)

/-- What is shown are the groups, each as one finding. -/
theorem shown_eq (fs : List Finding) :
    shown fs = (firsts fs).filterMap fun f => shownOf? (ofKey f.key fs) := by
  rw [shown, gather_eq, List.filterMap_map]
  rfl

/-- **Lists without a common key are shown one after the other.** -/
theorem shown_append {fs gs : List Finding} (h : ∀ f ∈ fs, ∀ g ∈ gs, g.key ≠ f.key) :
    shown (fs ++ gs) = shown fs ++ shown gs := by
  rw [shown_eq, shown_eq, shown_eq, firsts_append h, List.filterMap_append]
  congr 1
  · refine List.filterMap_congr fun f hf => ?_
    have hnone := ofKey_eq_nil (h f ((firsts_sublist fs).subset hf))
    rw [ofKey_append, hnone, List.append_nil]
  · refine List.filterMap_congr fun g hg => ?_
    have hnone := ofKey_eq_nil fun f hf => (h f hf g ((firsts_sublist gs).subset hg)).symm
    rw [ofKey_append, hnone, List.nil_append]

/-- Where no key is repeated, every finding is the only one of its key. -/
theorem ofKey_of_nodup {fs : List Finding} (h : (fs.map Finding.key).Nodup) {f : Finding}
    (hf : f ∈ fs) : ofKey f.key fs = [f] := by
  induction fs with
  | nil => exact absurd hf List.not_mem_nil
  | cons g fs ih =>
    rw [List.map_cons, List.nodup_cons] at h
    rcases List.mem_cons.mp hf with rfl | hf
    · have hnone : ofKey f.key fs = [] :=
        ofKey_eq_nil fun x hx hkey => h.1 (hkey ▸ List.mem_map_of_mem hx)
      rw [ofKey_cons_of_eq rfl, hnone]
    · rw [ofKey_cons_of_ne fun hkey => h.1 (hkey ▸ List.mem_map_of_mem hf), ih h.2 hf]

/-- Findings without repeated keys are shown as they are. -/
theorem shown_eq_self {fs : List Finding} (h : (fs.map Finding.key).Nodup) : shown fs = fs := by
  have hsome : ∀ f ∈ fs, shownOf? (ofKey f.key fs) = some f := by
    intro f hf
    rw [ofKey_of_nodup h hf]
    rfl
  rw [shown_eq, firsts_eq_self h, List.filterMap_congr hsome, List.filterMap_some]

/-- Where there are as many first findings as findings, no key is repeated. -/
theorem nodup_keys_of_length {fs : List Finding} (h : fs.length ≤ (firsts fs).length) :
    (fs.map Finding.key).Nodup := by
  have hfirsts : firsts fs = fs := (firsts_sublist fs).eq_of_length_le h
  rw [← hfirsts]
  exact nodup_keys_firsts fs

/-- Findings without repeated keys are shown as they are, and no others. -/
theorem shown_eq_self_iff {fs : List Finding} :
    shown fs = fs ↔ (fs.map Finding.key).Nodup := by
  constructor
  · intro h
    -- a key is shown as one finding at most, so none of the findings is a second of its key
    refine nodup_keys_of_length ?_
    calc fs.length = (shown fs).length := by rw [h]
      _ = ((firsts fs).filterMap fun f => shownOf? (ofKey f.key fs)).length := by rw [shown_eq]
      _ ≤ (firsts fs).length := List.length_filterMap_le _ _
  · exact shown_eq_self

/-! ## 3. What is shown of a group -/

/-- What a message says about the lines that it stands for: nothing of one line, two by name, up to
five in a list, more by their number. -/
def note (lines : List Nat) : String :=
  let names := lines.map fun (n : Nat) => Numeral.text n
  match lines.length with
  | 0 | 1 => ""
  | 2 => " (lines " ++ " and ".intercalate names ++ ")"
  | 3 | 4 | 5 => " (lines " ++ ", ".intercalate names ++ ")"
  | count => " (" ++ Numeral.text count ++ " occurrences)"

theorem wording_of_length_ne {names : List String} (h : names.length ≠ 2) (count : Nat) :
    wording count names = if count ≤ 5 then " (lines " ++ ", ".intercalate names ++ ")"
      else " (" ++ Numeral.text count ++ " occurrences)" := by
  unfold wording
  split
  · exact absurd rfl h
  · rfl

theorem remark_row {lines : List Nat} (few : 3 ≤ lines.length) (many : lines.length ≤ 5) :
    remark lines =
      " (lines " ++ ", ".intercalate (lines.map fun (n : Nat) => Numeral.text n) ++ ")" := by
  rw [remark, named, if_pos many, wording_of_length_ne (by rw [List.length_map]; omega),
    if_pos many]

theorem remark_count {lines : List Nat} (many : 5 < lines.length) :
    remark lines = " (" ++ Numeral.text lines.length ++ " occurrences)" := by
  rw [remark, named, if_neg (Nat.not_le.mpr many), List.map_nil, wording_of_length_ne (by simp),
    if_neg (Nat.not_le.mpr many)]

/-- From two lines on, the note is what the message goes on to say. -/
theorem remark_eq_note : ∀ {lines : List Nat}, 2 ≤ lines.length → remark lines = note lines
  | [a, b], _ => by
    have : " and ".intercalate [Numeral.text a, Numeral.text b] =
        Numeral.text a ++ " and " ++ Numeral.text b := rfl
    rw [remark, note, named, if_pos (by simp)]
    simp only [List.map_cons, List.map_nil, wording, List.length_cons, List.length_nil, this,
      String.append_assoc]
  | [_, _, _], _ => remark_row (by simp) (by simp)
  | [_, _, _, _], _ => remark_row (by simp) (by simp)
  | [_, _, _, _, _], _ => remark_row (by simp) (by simp)
  | _ :: _ :: _ :: _ :: _ :: _ :: _, _ => remark_count (by simp)

/-- **One message on several lines**: what is shown stands on the first of the lines and says which
lines there are. -/
theorem shownOf?_lines (f : Finding) {lines : List Nat} (hlines : lines ≠ [])
    (ascending : lines.Pairwise (· < ·)) :
    shownOf? (lines.map fun n => { f with line := n }) =
      some { f with line := lines.headD 0, message := f.message ++ note lines } := by
  have hsorted : sortedLines (lines.map fun n => { f with line := n }) = lines := by
    rw [sortedLines, List.map_map]
    change (lines.map id).mergeSort _ = lines
    rw [List.map_id]
    exact List.mergeSort_of_pairwise (ascending.imp fun hlt => by simpa using Nat.le_of_lt hlt)
  match lines with
  | [n] =>
    have hnote : f.message ++ note [n] = f.message := String.append_empty
    rw [hnote]
    rfl
  | m :: n :: rest =>
    have hnote : remark (m :: n :: rest) = note (m :: n :: rest) := remark_eq_note (by simp)
    rw [List.map_cons, List.map_cons] at hsorted ⊢
    rw [shownOf?, hsorted, hnote]
    · rfl
    · simp

end Critique.Grouping
