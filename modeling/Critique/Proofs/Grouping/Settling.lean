/-
# Grouping again and again

Grouping what has been grouped need not be a repetition.  The notes that a pass writes become part
of the messages, and a message that has been given a note may then be that of another finding, so
the next pass finds a new group.  Still every pass either changes nothing or leaves fewer findings
than it was given: it shows one for each key, and where all keys are different it shows everything
as it is.

So the number of findings is the measure.  A pass that finds a key twice takes one off at least
(`length_shown_lt_iff`), which leaves room for no more such passes than there are findings, and from
the first list without repeated keys on all lists are the same (`after_of_settled`).  A pass may be
refused for a line without a numeral, and then there is no further one; but entries stand on lines
that their findings stand on (`line_of_mem_shown`), so this needs such a line from the beginning.

* `length_shown_lt_iff`: when a pass leaves fewer findings;
* `exists_settled`: some pass is the last one that changes anything, or the first one refused;
* `group_settles`: repeated grouping comes to rest.
-/
import Critique.Proofs.Grouping.Entries

namespace Critique.Grouping

variable {fs gs : List Finding}

/-! ## 1. One pass -/

/-- **A pass leaves fewer findings** exactly if it finds a key twice. -/
theorem length_shown_lt_iff :
    (shown fs).length < fs.length ↔ ¬ (fs.map Finding.key).Nodup := by
  constructor
  · intro hlt hnodup
    rw [shown_eq_self hnodup] at hlt
    exact Nat.lt_irrefl _ hlt
  · intro h
    by_contra hnot
    refine h (nodup_keys_of_length ?_)
    calc fs.length ≤ (shown fs).length := Nat.le_of_not_lt hnot
      _ = ((firsts fs).map Finding.key).length := by rw [length_shown, keys_firsts]
      _ = (firsts fs).length := List.length_map _

/-- An entry stands on the line of some finding. -/
theorem line_of_mem_shown {e : Finding} (h : e ∈ shown fs) : ∃ f ∈ fs, f.line = e.line := by
  obtain ⟨similar, hsimilar, hentry⟩ := List.mem_filterMap.mp h
  obtain ⟨f, hf, rfl⟩ := mem_gather.mp hsimilar
  obtain ⟨e', hentry', hstands⟩ := shownOf?_standsFor (ofKey_ne_nil hf)
  obtain rfl : e' = e := Option.some.inj (hentry'.symm.trans hentry)
  obtain ⟨g, hg, hline⟩ := List.mem_map.mp (List.min?_mem hstands.line)
  exact ⟨g, List.mem_of_mem_filter hg, hline⟩

/-! ## 2. Many passes -/

/-- What the findings have become after so many passes, if none of these was refused. -/
def after (times : Nat) (fs : List Finding) : Option (List Finding) :=
  (fs :: stages times fs)[times]?

theorem after_zero (fs : List Finding) : after 0 fs = some fs := rfl

theorem after_succ_of_ok (h : group fs = .ok gs) (times : Nat) :
    after (times + 1) fs = after times gs := by
  simp [after, stages, h]

theorem after_succ_of_error {flaw : Numeral.Flaw} (h : group fs = .error flaw) (times : Nat) :
    after (times + 1) fs = none := by
  simp [after, stages, h]

/-- From a list without repeated keys on nothing changes. -/
theorem after_of_settled (h : (fs.map Finding.key).Nodup) (times : Nat) :
    after times fs = some fs := by
  induction times with
  | zero => exact after_zero fs
  | succ times ih => rw [after_succ_of_ok (group_eq_self_iff.mpr h), ih]

/-- From some pass on nothing changes any more and no key is repeated. -/
def Settles (fs : List Finding) (start : Nat) : Prop :=
  ∃ settled, (settled.map Finding.key).Nodup ∧ ∀ times ≥ start, after times fs = some settled

/-- From some pass on there is nothing, for a line that has no numeral. -/
def Refused (fs : List Finding) (start : Nat) : Prop :=
  (∃ f ∈ fs, ¬ Numeral.Short f.line) ∧ ∀ times ≥ start, after times fs = none

theorem after_succ_of_forall (h : group fs = .ok gs) {start : Nat} {result : Option (List Finding)}
    (later : ∀ times ≥ start, after times gs = result) :
    ∀ times ≥ start + 1, after times fs = result := by
  rintro (_ | times) hle
  · exact absurd hle (Nat.not_succ_le_zero start)
  · rw [after_succ_of_ok h]
    exact later times (Nat.le_of_succ_le_succ hle)

/-- **Some pass is the last one that changes anything, or the first one refused**, and up to it
there are no more passes than findings. -/
theorem exists_settled (fs : List Finding) :
    ∃ start ≤ fs.length, Settles fs start ∨ Refused fs start := by
  by_cases hnodup : (fs.map Finding.key).Nodup
  · exact ⟨0, Nat.zero_le _, .inl ⟨fs, hnodup, fun times _ => after_of_settled hnodup times⟩⟩
  by_cases hunwritable : Unwritable fs
  · have herror := group_eq_error hunwritable
    obtain ⟨f, hf, -, -, g, hg, hlong⟩ := hunwritable
    refine ⟨1, List.length_pos_of_mem hf, .inr ⟨⟨g, List.mem_of_mem_filter hg, hlong⟩, ?_⟩⟩
    rintro (_ | times) hle
    · exact absurd hle (by decide)
    · exact after_succ_of_error herror times
  · -- the pass that is made now pays for itself with a finding
    have hgroup := group_eq_shown hunwritable
    have hshorter := length_shown_lt_iff.mpr hnodup
    obtain ⟨start, hstart, hrest⟩ := exists_settled (shown fs)
    refine ⟨start + 1, by omega, ?_⟩
    rcases hrest with ⟨settled, hsettled, hlater⟩ | ⟨⟨e, he, hlong⟩, hlater⟩
    · exact .inl ⟨settled, hsettled, after_succ_of_forall hgroup hlater⟩
    · obtain ⟨f, hf, hline⟩ := line_of_mem_shown he
      exact .inr ⟨⟨f, hf, hline ▸ hlong⟩, after_succ_of_forall hgroup hlater⟩
termination_by fs.length

/-- **Repeated grouping comes to rest.**  A pass shows one finding for each key, and fewer findings
than it was given unless all keys are different; it is refused only where a line that is to be named
has no numeral.  It changes nothing exactly if all keys are different.  So after at most as many
passes as there are findings no key is repeated and no later pass changes anything, unless some line
has no numeral and a pass up to then is refused for it. -/
theorem group_settles (fs : List Finding) :
    ((∃ gs, group fs = .ok gs ∧ gs.length = (fs.map Finding.key).eraseDups.length ∧
        (gs.length < fs.length ↔ ¬ (fs.map Finding.key).Nodup)) ↔ ¬ Unwritable fs) ∧
    (group fs = .error .unwritable ↔ Unwritable fs) ∧
    (group fs = .ok fs ↔ (fs.map Finding.key).Nodup) ∧
    ∃ start ≤ fs.length, Settles fs start ∨ Refused fs start := by
  refine ⟨⟨?_, fun h => ?_⟩, group_eq_error_iff, group_eq_self_iff, exists_settled fs⟩
  · rintro ⟨gs, hgroup, -⟩
    exact (group_eq_ok_iff.mp hgroup).1
  · exact ⟨shown fs, group_eq_shown h, length_shown fs, length_shown_lt_iff⟩

/-- Two findings on the first line and on a line far away are not grouped even once. -/
theorem not_settles_farApart : ¬ ∃ start, Settles farApart start := by
  rintro ⟨start, settled, -, hlater⟩
  have hnone := after_succ_of_error (group_eq_error unwritable_farApart) start
  rw [hlater (start + 1) (Nat.le_succ start)] at hnone
  exact absurd hnone (by simp)

end Critique.Grouping
