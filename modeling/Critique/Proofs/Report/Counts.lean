/-
# What a tally counts

A tally is made after grouping.  Grouping goes by key and takes no notice of kinds, so a group may
hold findings of several kinds, and its entry is of the kind of the first one.  The tally therefore
does not count how many findings of a kind there were, but how many keys there were whose first
finding is of that kind (`Tally.ofKeys`).  Each key has one first finding and that finding one kind,
so the four counts are those of the parts of a whole.

In a report no key is repeated, so there the keys are counted by the findings that are shown, and it
makes no difference whether the tally is taken of them or of all findings that the report was made
of.

* `Grouping.countKeys_eq`: the keys of a kind, counted by their first findings;
* `Tally.ofFindings_shown`: the tally of what is shown counts keys;
* `tallies_count_keys`: tallies after grouping, and the tallies of reports.
-/
import Critique.Proofs.Grouping.Entries
import Critique.Proofs.Report.Regrouping

namespace Critique

open Grouping

/-! ## 1. Keys of a kind -/

/-- The number of keys whose first finding is of a kind. -/
def Grouping.countKeys (kind : Kind) (fs : List Finding) : Nat :=
  (fs.map Finding.key).eraseDups.countP fun key =>
    decide ((ofKey key fs).head?.map Finding.kind = some kind)

/-- The tally of the keys of some findings, each counted for the kind of its first finding. -/
def Tally.ofKeys (fs : List Finding) : Tally :=
  { total := (fs.map Finding.key).eraseDups.length
    errors := countKeys .error fs
    warnings := countKeys .warning fs
    suggestions := countKeys .suggestion fs
    optimizations := countKeys .optimization fs }

/-- A key is counted once, for its first finding, whatever kinds come behind. -/
example :
    let f : Finding := ⟨.warning, .low, 3, "Mend", "Style"⟩
    Tally.ofKeys [f, { f with kind := .error }, { f with kind := .error, line := 1 }] =
      { Tally.zero with total := 1, warnings := 1 } := by
  decide

/-- **The keys of a kind** are as many as first findings of that kind. -/
theorem Grouping.countKeys_eq (kind : Kind) (fs : List Finding) :
    countKeys kind fs = countKind kind (firsts fs) := by
  rw [countKeys, countKind, ← keys_firsts, List.countP_map]
  refine List.countP_congr fun f hf => ?_
  rw [Function.comp_apply, mem_firsts.mp hf, Option.map_some, decide_eq_true_iff, Option.some_inj,
    beq_iff_eq]

theorem countKind_eq_count (kind : Kind) (fs : List Finding) :
    countKind kind fs = (fs.map Finding.kind).count kind := by
  rw [countKind, List.count, List.countP_map]
  rfl

/-! ## 2. Tallies after grouping -/

/-- **The tally of what is shown counts keys.** -/
theorem Tally.ofFindings_shown (fs : List Finding) : ofFindings (shown fs) = ofKeys fs := by
  have hkind : ∀ kind, countKind kind (shown fs) = countKeys kind fs := by
    intro kind
    rw [countKeys_eq, countKind_eq_count, countKind_eq_count, kinds_shown]
  rw [ofFindings, ofKeys, hkind, hkind, hkind, hkind, length_shown]

/-- The tally of the keys of some findings is that of a whole and its parts. -/
theorem Tally.sum_ofKeys (fs : List Finding) :
    (ofKeys fs).errors + (ofKeys fs).warnings + (ofKeys fs).suggestions
      + (ofKeys fs).optimizations = (ofKeys fs).total := by
  rw [← ofFindings_shown]
  exact sum_eq_total (shown fs)

/-- **Tallies after grouping count keys**, each for the kind of its first finding, and their four
counts add up to the number of keys; there is no tally only where a line that is to be named has no
numeral, so that grouping gives nothing.  The tally of a report counts the findings that are shown,
and so their keys, and these are as many as all findings had that the report was made of. -/
theorem tallies_count_keys :
    (∀ fs : List Finding,
      ((∃ merged, group fs = .ok merged ∧ Tally.ofFindings merged = Tally.ofKeys fs) ↔
        ¬ Unwritable fs) ∧
      (group fs = .error .unwritable ↔ Unwritable fs) ∧
      (Tally.ofKeys fs).errors + (Tally.ofKeys fs).warnings + (Tally.ofKeys fs).suggestions
        + (Tally.ofKeys fs).optimizations = (Tally.ofKeys fs).total) ∧
    ∀ code language : String,
      (Report.analyze code language).tally =
        Tally.ofFindings (Report.analyze code language).findings ∧
      (Report.analyze code language).tally =
        Tally.ofKeys (Report.analyze code language).findings ∧
      let name := String.ofList (Text.lower language.toList)
      (Report.analyze code language).tally =
        Tally.ofKeys ((Scan.all code name).findings ++ Insight.all code name) := by
  refine ⟨fun fs => ⟨⟨?_, fun h => ?_⟩, group_eq_error_iff, Tally.sum_ofKeys fs⟩,
    fun code language => ⟨rfl, ?_, Tally.ofFindings_shown _⟩⟩
  · rintro ⟨merged, hgroup, -⟩
    exact (group_eq_ok_iff.mp hgroup).1
  · exact ⟨shown fs, group_eq_shown h, Tally.ofFindings_shown fs⟩
  · -- in a report no key is left twice, so it would be shown as it is once more
    have hshown : shown (Report.analyze code language).findings =
        (Report.analyze code language).findings :=
      shown_eq_self (nodup_keys_of_said (nodup_said code _))
    rw [Report.tally_analyze, ← Tally.ofFindings_shown, hshown]

/-- Two findings on the first line and on a line far away are not tallied. -/
theorem no_tally_farApart :
    ¬ ∃ merged, group farApart = .ok merged ∧
      Tally.ofFindings merged = Tally.ofKeys farApart := by
  rintro ⟨merged, hgroup, -⟩
  exact (group_eq_ok_iff.mp hgroup).1 unwritable_farApart

end Critique
