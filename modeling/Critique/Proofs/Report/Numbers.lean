/-
# The numbers of a report

The numbers of a report are small.  Its score is at most the baseline.  A finding stands on a line of
the source that it is about, or on line 0 where it is about the source as a whole, so no line is
beyond the number of lines, which is short for every source that fits anywhere.  And there are no
more findings than the catalog has rules, checks and hints, so the counts of the tally are short for
every source at all.

* `line_le`: no finding is beyond the last line;
* `Report.group_found`: what a report shows is what grouping gives;
* `length_findings_lt`: there are few findings;
* `Report.writable_analyze` and `Report.readable_members`: a report can be written and read back.
-/
import Critique.Proofs.Grouping.Refusal
import Critique.Proofs.RecordCodec
import Critique.Proofs.Report.Findings

namespace Critique

open LineCheck

/-! ## 1. Lines -/

/-- No check fires beyond the last line. -/
theorem LineCheck.lt_of_mem_linesFrom {c : LineCheck} {number n : Nat} {texts : List (List Char)}
    (h : n ∈ c.linesFrom number texts) : n < number + texts.length := by
  obtain ⟨⟨text, m⟩, hmem, rfl⟩ := List.mem_map.mp h
  exact (List.mem_zipIdx (List.mem_filter.mp hmem).1).2.1

theorem line_entries_le {code : String} {checks : List LineCheck} {f : Finding}
    (h : f ∈ entries code checks) : f.line ≤ (Text.splitLines code.toList).length := by
  obtain ⟨c, -, rfl⟩ := List.mem_map.mp h
  show (c.linesFrom 1 (Text.splitLines code.toList)).headD 0 ≤ _
  cases hlines : c.linesFrom 1 (Text.splitLines code.toList) with
  | nil => exact Nat.zero_le _
  | cons n lines =>
    have hlt := lt_of_mem_linesFrom (c := c) (hlines ▸ List.mem_cons_self)
    rw [List.headD_cons]
    omega

/-- **No finding is beyond the last line.** -/
theorem line_le {code language : String} {f : Finding}
    (h : f ∈ (Report.analyze code language).findings) :
    f.line ≤ (Text.splitLines code.toList).length := by
  rw [Report.analyze, findings_ofSource, List.mem_append, List.mem_append] at h
  rcases h with h | h | h
  · exact line_entries_le h
  · rw [line_remarksOn h]
    exact Nat.zero_le _
  · exact line_entries_le h

/-- Nothing that a report is made of is beyond the last line. -/
theorem line_found_le {code language : String} {f : Finding}
    (h : f ∈ (Scan.all code language).findings ++ Insight.all code language) :
    f.line ≤ (Text.splitLines code.toList).length := by
  rw [found_eq, List.mem_append, List.mem_append] at h
  rcases h with h | h | h
  · have hlt := line_lt_of_mem_hits h
    omega
  · rw [line_remarksOn h]
    exact Nat.zero_le _
  · have hlt := line_lt_of_mem_hits h
    omega

/-- **What a report shows is what grouping gives**, as long as the number of lines has a numeral. -/
theorem Report.group_found {code : String}
    (short : Numeral.Short (Text.splitLines code.toList).length) (language : String) :
    Grouping.group ((Scan.all code language).findings ++ Insight.all code language) =
      .ok (ofSource code language).findings :=
  Grouping.group_eq_shown (Grouping.not_unwritable_of_short fun _ hf =>
    Numeral.short_of_le (line_found_le hf) short)

/-- **A report can be written and read back**, as long as the number of lines can. -/
theorem Report.writable_analyze {code : String}
    (short : Numeral.Short (Text.splitLines code.toList).length) (language : String) :
    (Report.analyze code language).Writable where
  score := by
    obtain ⟨hnonneg, hle⟩ := score_le code language
    refine Numeral.short_of_lt ?_
    rw [Report.baseline] at hle
    omega
  findings f hf := Numeral.short_of_le (line_le hf) short

/-! ## 2. How many findings there are -/

theorem length_entries_le (code : String) (checks : List LineCheck) :
    (entries code checks).length ≤ checks.length := by
  rw [entries, List.length_map, ranked, List.length_map, List.length_mergeSort]
  refine (List.length_filter_le _ _).trans ?_
  rw [List.length_zipIdx]

theorem length_remarksOn_le (code language : String) :
    (remarksOn code language).length ≤ Scan.wholeChecks.length + 2 := by
  have hwhole := List.length_filter_le (fun c : Scan.WholeCheck => c.fires code.toList)
    Scan.wholeChecks
  have hcomplexity : (Insight.complexityHints code).length ≤ 1 := by
    rcases complexityHints_cases code with hnil | ⟨f, hf, -⟩
    · rw [hnil]
      exact Nat.zero_le 1
    · rw [hf]
      exact Nat.le_refl 1
  have hdocumentation : (Insight.documentationHints code language).length ≤ 1 := by
    rcases documentationHints_cases code language with hnil | ⟨f, hf, -⟩
    · rw [hnil]
      exact Nat.zero_le 1
    · rw [hf]
      exact Nat.le_refl 1
  rw [remarksOn, List.length_append, List.length_map, List.length_append]
  omega

/-- **There are few findings.** -/
theorem length_findings_lt (code language : String) :
    (Report.analyze code language).findings.length < 2 ^ 64 := by
  rw [Report.analyze, findings_ofSource, List.length_append, List.length_append]
  generalize String.ofList (Text.lower language.toList) = name
  have hrules := (length_entries_le code ((Catalog.rulesFor name).map (Rule.check code.toList))).trans
    (List.length_map _).le
  have hhints := (length_entries_le code ((Insight.hintsFor name).map Insight.Hint.check)).trans
    (List.length_map _).le
  have hremarks := length_remarksOn_le code name
  have hcatalog := (Catalog.rulesFor_sublist name).length_le
  have hlist := (Insight.hintsFor_sublist name).length_le
  have hsizes : Catalog.all.length + (Scan.wholeChecks.length + 2) + Insight.allHints.length
    < 2 ^ 64 := by decide
  omega

/-! ## 3. Reports that are sent -/

theorem Tally.readable_toJson {findings : List Finding} (h : findings.length < 2 ^ 64)
    (room : Nat) : Json.Readable (room + 1) (Tally.ofFindings findings).toJson := by
  have hcount : ∀ kind, Numeral.Short (countKind kind findings) := by
    intro kind
    have : countKind kind findings ≤ findings.length := List.countP_le_length
    exact Numeral.short_of_lt (by omega)
  refine Json.Readable.object (by simp) (by simp) ?_
  simp only [List.forall_mem_cons, List.not_mem_nil, false_imp_iff, implies_true, and_true]
  exact ⟨.int (Numeral.short_of_lt (by show (findings.length : Int).natAbs < _; omega)),
    .int (hcount _), .int (hcount _), .int (hcount _), .int (hcount _)⟩

/-- **The answer to a report can be read back**, as long as its numbers can. -/
theorem Report.readable_members {code : String}
    (short : Numeral.Short (Text.splitLines code.toList).length) (language : String) {id : Int}
    (hid : Numeral.Short id) (room : Nat) :
    Json.Readable (room + 3) (.object (("id", .int id) :: (analyze code language).members)) := by
  have hwritable := writable_analyze short language
  have htally := Tally.readable_toJson (length_findings_lt code language) (room + 1)
  rw [← tally_analyze] at htally
  generalize analyze code language = report at *
  have hfindings : Json.Readable (room + 2) (.list (report.findings.map Finding.toJson)) := by
    refine .list fun item hitem => ?_
    obtain ⟨f, hf, rfl⟩ := List.mem_map.mp hitem
    exact Finding.readable_toJson (hwritable.findings f hf) room
  obtain ⟨score, findings, rewritten, tally⟩ := report
  cases rewritten <;>
    refine Json.Readable.object (by simp [members]) (by simp [members]) ?_ <;>
    simp only [members, Option.map_none, Option.map_some, Option.toList_none, Option.toList_some,
      List.nil_append, List.cons_append, List.forall_mem_cons, List.not_mem_nil, false_imp_iff,
      implies_true, and_true]
  · exact ⟨.int hid, .int hwritable.score, hfindings, htally⟩
  · exact ⟨.int hid, .int hwritable.score, hfindings, .text _, htally⟩

end Critique
