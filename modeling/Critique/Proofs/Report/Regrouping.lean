/-
# Reports are grouped once and for all

Grouping what has been grouped is not always a repetition.  The note that a group is given becomes
part of its message, and the next grouping takes it for the message of a finding like any other: a
finding that happens to say the same then falls into the group.  Only where no two findings say the
same does grouping change nothing (`Grouping.group_eq_self_iff`).

In a report no two findings do.  What tells them apart is what they say without their notes
(`Finding.said`): for the entry of a check that is the check's own message, whatever lines it stands
for, and for a remark it is the whole of its message, since no remark ends in a note.  These are the
messages of different checks, and no message is used twice.

* `said_entry` and `said_remark`: what the findings of a report say;
* `nodup_said`: no two of them say the same;
* `group_findings`: grouping a report again changes nothing.
-/
import Critique.Proofs.Grouping.Refusal
import Critique.Proofs.Report.Note

namespace Critique

open Grouping LineCheck

/-! ## 1. What findings say -/

/-- What a finding says without the note on its lines. -/
def Finding.said (f : Finding) : String :=
  match splitNote f.message.toList with
  | some (front, _) => String.ofList front
  | none => f.message

/-- Findings that do not say the same have different keys. -/
theorem nodup_keys_of_said {fs : List Finding} (h : (fs.map Finding.said).Nodup) :
    (fs.map Finding.key).Nodup := by
  refine List.pairwise_map.mpr ((List.pairwise_map.mp h).imp fun {f g} hne hkey => hne ?_)
  have hmessage : f.message = g.message := congrArg Prod.fst hkey
  rw [Finding.said, Finding.said, hmessage]

/-- **An entry says what its check does**, whatever lines it stands for. -/
theorem said_entry {c : LineCheck} (h : c.template.message ∈ messages) (lines : List Nat) :
    (c.entry lines).said = c.template.message := by
  have hsplit := splitNote_entry h lines
  rcases Nat.lt_or_ge lines.length 2 with hone | hmany
  · rw [if_pos hone] at hsplit
    rw [Finding.said, hsplit]
    exact message_entry_of_lt hone
  · rw [if_neg (Nat.not_lt.mpr hmany)] at hsplit
    rw [Finding.said, hsplit]
    exact String.ofList_toList

/-- **A remark says the whole of its message.** -/
theorem said_remark {code language : String} {f : Finding} (hf : f ∈ remarksOn code language) :
    f.said = f.message := by
  have hsplit : splitNote f.message.toList = none := by
    rcases remark_cases hf with hremark | hcomplexity
    · exact splitNote_message _ (List.mem_append_right _ (List.mem_append_left _ hremark))
    · exact splitNote_complexityHints hcomplexity
  rw [Finding.said, hsplit]

/-! ## 2. No two findings say the same -/

/-- What the entries of checks say: each the message of another check. -/
theorem said_entries (code : String) {checks : List LineCheck}
    (h : ∀ c ∈ checks, c.template.message ∈ messages) :
    ((entries code checks).map Finding.said).Subperm
      (checks.map fun c => c.template.message) := by
  generalize hlines : (fun c : LineCheck => c.linesFrom 1 (Text.splitLines code.toList)) = lines
  have hsaid : (entries code checks).map Finding.said =
      (ranked lines checks).map fun c => c.template.message := by
    rw [← hlines, entries, List.map_map]
    refine List.map_congr_left fun c hc => ?_
    exact said_entry (h c (mem_ranked.mp hc).1) _
  rw [hsaid]
  have hfiring : ((checks.filter fun c => lines c ≠ []).map fun c => c.template.message).Sublist
      (checks.map fun c => c.template.message) := List.filter_sublist.map _
  exact ((ranked_perm lines checks).map _).subperm.trans hfiring.subperm

/-- The entries of checks whose messages are of one block say different things of that block. -/
theorem said_block {block : List String} (hblock : block.Sublist messages) (code : String)
    {checks : List LineCheck} (h : (checks.map fun c => c.template.message).Sublist block) :
    ((entries code checks).map Finding.said).Nodup ∧
      ∀ f ∈ entries code checks, f.said ∈ block := by
  have hmessages : ∀ c ∈ checks, c.template.message ∈ messages := fun c hc =>
    hblock.subset (h.subset (List.mem_map_of_mem (f := fun c => c.template.message) hc))
  have hsubperm : ((entries code checks).map Finding.said).Subperm block :=
    (said_entries code hmessages).trans h.subperm
  constructor
  · obtain ⟨said, hperm, hsublist⟩ := hsubperm
    exact hperm.nodup_iff.mp (hsublist.nodup (hblock.nodup messages_nodup))
  · intro f hf
    exact hsubperm.subset (List.mem_map_of_mem hf)

/-- **No two findings of a report say the same.** -/
theorem nodup_said (code language : String) :
    ((Report.ofSource code language).findings.map Finding.said).Nodup := by
  have hallRules : (Catalog.all.map (·.message)).Sublist messages := List.sublist_append_left _ _
  have hallHints : (Insight.allHints.map (·.message)).Sublist messages :=
    (List.sublist_append_right _ _).trans (List.sublist_append_right _ _)
  obtain ⟨hrules, hrule⟩ := said_block hallRules code (messages_rules code.toList language)
  obtain ⟨hhints, hhint⟩ := said_block hallHints code (messages_hints language)
  have hremarks : ((remarksOn code language).map Finding.said).Nodup := by
    rw [List.map_congr_left fun f hf => said_remark hf]
    exact nodup_messages_remarksOn code language
  rw [findings_ofSource, List.map_append, List.map_append]
  refine List.nodup_append.mpr ⟨hrules, List.nodup_append.mpr ⟨hremarks, hhints, ?_⟩, ?_⟩
  · -- what a remark says, no hint does
    intro a ha b hb hab
    obtain ⟨f, hf, rfl⟩ := List.mem_map.mp ha
    obtain ⟨g, hg, rfl⟩ := List.mem_map.mp hb
    rw [said_remark hf] at hab
    exact remark_ne_hint hf (hhint g hg) hab
  · -- what a rule says, neither a remark nor a hint does
    intro a ha b hb hab
    obtain ⟨f, hf, rfl⟩ := List.mem_map.mp ha
    rcases List.mem_append.mp hb with hb | hb
    · obtain ⟨g, hg, rfl⟩ := List.mem_map.mp hb
      rw [said_remark hg] at hab
      exact remark_ne_rule hg (hrule f hf) hab.symm
    · obtain ⟨g, hg, rfl⟩ := List.mem_map.mp hb
      exact rule_ne_hint (hrule f hf) (hhint g hg) hab

/-! ## 3. Grouping a report again -/

/-- **Grouping a report again changes nothing**: no two of its findings have one message and one
category, the notes on lines included. -/
theorem Report.group_findings (code language : String) :
    group (analyze code language).findings = .ok (analyze code language).findings ∧
      ((analyze code language).findings.map Finding.key).Nodup := by
  have hkeys : ((analyze code language).findings.map Finding.key).Nodup :=
    nodup_keys_of_said (nodup_said code _)
  exact ⟨group_eq_self_iff.mpr hkeys, hkeys⟩

end Critique
