/-
# Normal forms

Data come in with many spellings of one value: a name in camel case or with underscores, or both, a
number as a text, as a truth value or with a point, a time as a text of several forms or as a count.
What is checked is written in one form, and that form is taken as the value that it is the form of
(`check_write`).  So data that were brought into their form once are left as they are by doing it
again.

For findings, tallies and reports this holds of every value, and a report may do without its rewrite.
A record is taken back only where its time can be written, and there the check itself vouches for
it: what is taken as a time is legible, however it was spelled, and shows no year 0
(`checkStamp_fits`).

* `checkReport_toJson`: the checks take what a report is written as;
* `checkRecord_fits`: the time of a record that was checked can be written;
* `check_write`: a checked value is taken back from its form.
-/
import Critique.Proofs.RecordCodec
import Critique.Proofs.Time.Reading

namespace Critique

/-! ## 1. Reports -/

/-- **The checks take what a report is written as**, with a rewrite or without. -/
theorem checkReport_toJson (r : Report) : checkReport r.toJson = .ok r := by
  obtain ⟨score, findings, rewritten, tally⟩ := r
  have hfindings : checkList checkFinding (.list (findings.map Finding.toJson)) = .ok findings :=
    checkItems_map checkFinding_toJson findings 0
  have htally := checkTally_toJson tally
  cases rewritten <;>
    simp [checkReport, checkObject, Report.toJson, Report.members, field, optionalField,
      findMember, Entries.find?, hfindings, htally, checkInteger, checkOptionalText, checkText,
      Checked.under, Checked.of, Checked.ap, Except.map]

/-! ## 2. Times that were checked -/

/-- A field that is there was checked. -/
theorem field_ok {α : Type} {names : List String} {check : Json → Checked α}
    {members : List (Json.Key × Json)} {a : α} (h : field names check members = .ok a) :
    ∃ value, check value = .ok a := by
  unfold field at h
  split at h
  · exact ⟨_, Checked.under_ok_iff.mp h⟩
  · cases h

theorem checkRead_fits {causeOf : Time.StampFlaw → Cause}
    {read : Except Time.StampFlaw Time.Stamp} {stamp : Time.Stamp}
    (legible : ∀ s, read = .ok s → s.Legible) (h : checkRead causeOf read = .ok stamp) :
    stamp.Fits := by
  unfold checkRead at h
  split at h
  · cases h
  · split at h
    · next hchecked =>
      cases h
      exact Time.fits_of_checked (legible _ rfl) hchecked
    · cases h

/-- **What is taken as a time can be written**, however it was spelled. -/
theorem checkStamp_fits {value : Json} {stamp : Time.Stamp} (h : checkStamp value = .ok stamp) :
    stamp.Fits := by
  cases value with
  | int n =>
    rw [checkStamp] at h
    split at h
    · cases h
    · exact checkRead_fits (fun _ => Time.ofUnix_legible) h
  | real x => exact checkRead_fits (fun _ => Time.ofFloat_legible) h
  | text s => exact checkRead_fits (fun _ => Time.read_legible) h
  | broken s => cases h
  | null => cases h
  | bool b => cases h
  | list items => cases h
  | object members => cases h

/-- The time of a record that was checked can be written. -/
theorem checkRecord_fits {value : Json} {r : Record} (h : checkRecord value = .ok r) :
    r.created.Fits := by
  unfold checkRecord checkObject at h
  split at h
  · simp only [Checked.ap_ok_iff, Checked.of, Except.ok.injEq] at h
    -- the record is made field by field, and its time comes last
    obtain ⟨_, created, ⟨_, _, ⟨_, _, ⟨_, _, ⟨_, _, ⟨_, _, ⟨_, _, rfl, -, rfl⟩, -, rfl⟩, -, rfl⟩, -,
      rfl⟩, -, rfl⟩, -, rfl⟩, hcreated, rfl⟩ := h
    obtain ⟨value, hvalue⟩ := field_ok hcreated
    exact checkStamp_fits hvalue
  · cases h

/-! ## 3. Forms -/

/-- The kinds of data that come in and are written again. -/
inductive Form where
  | finding
  | tally
  | report
  | record

namespace Form

/-- The values of a form. -/
def Data : Form → Type
  | finding => Finding
  | tally => Tally
  | report => Report
  | record => Record

/-- The check of what comes in. -/
def check : (form : Form) → Json → Checked form.Data
  | finding => checkFinding
  | tally => checkTally
  | report => checkReport
  | record => checkRecord

/-- What a value is written as. -/
def write : (form : Form) → form.Data → Json
  | finding => Finding.toJson
  | tally => Tally.toJson
  | report => Report.toJson
  | record => Record.toJson

/-- What comes in, checked and written again. -/
def normalise (form : Form) (value : Json) : Checked Json :=
  (form.check value).map form.write

/-- **A checked value is taken back from its form**, and the form is left as it is. -/
theorem check_write {form : Form} {value : Json} {v : form.Data} (h : form.check value = .ok v) :
    form.check (form.write v) = .ok v ∧
      form.normalise (form.write v) = .ok (form.write v) := by
  have hback : form.check (form.write v) = .ok v := by
    cases form with
    | finding => exact checkFinding_toJson v
    | tally => exact checkTally_toJson v
    | report => exact checkReport_toJson v
    | record => exact checkRecord_toJson (checkRecord_fits h)
  refine ⟨hback, ?_⟩
  rw [normalise, hback]
  rfl

/-- A record that has one name in both spellings, its numbers as texts and as a truth value, more
members than it needs, and its time in a form that it is not written in. -/
theorem check_write_of_loose :
    let finding : Json := .object [("type", .text "error"), ("severity", .text "low"),
      ("line", .text "3"), ("message", .text "m"), ("category", .text "c"), ("more", .null)]
    let value : Json := .object [("id", .text " +0_12.0 "), ("code", .text "\""),
      ("language", .text ""), ("quality_score", .text "none"), ("qualityScore", .bool true),
      ("issues", .list [finding]), ("optimized_code", .text ""),
      ("created_at", .text "2024-02-29t23:59:59.5-0930")]
    let r : Record := ⟨12, "\"", "", 1, [⟨.error, .low, 3, "m", "c"⟩], some "",
      ⟨1709251199500000, some (-570)⟩⟩
    check record value = .ok r ∧ check record r.toJson = .ok r ∧
      normalise record r.toJson = .ok r.toJson := by
  intro finding value r
  have h : check record value = .ok r := rfl
  exact ⟨h, check_write h⟩

end Form

end Critique
