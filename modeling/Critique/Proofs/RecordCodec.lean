/-
# Records read back

The text that a server keeps for a record is the compact form of the record's JSON, and what is read
from it is the record.  The reader of JSON gives the value back (`Json.read_render`), and the checks
of the value take every field as it was written.

A record can be kept like this if its numbers are short and its time shows a year of four digits
(`Record.Writable`); nothing is asked of its texts.

* `checkRecord_toJson`: the checks take what a record is written as;
* `decode_encode`: the text of a record is read as the record;
* `text_tells_record`: no other record has its text.
-/
import Critique.Proofs.Json.RoundTrip
import Critique.Proofs.Time.Stamp
import Critique.Store.Remote

namespace Critique

/-! ## 1. What can be written -/

/-- The numbers of a finding are short. -/
def Finding.Writable (f : Finding) : Prop := Numeral.Short f.line

/-- The numbers of a report are short: its score and the lines of its findings. -/
structure Report.Writable (r : Report) : Prop where
  score : Numeral.Short r.score
  findings : ∀ f ∈ r.findings, f.Writable

/-- The numbers of a record are short and its time can be written. -/
structure Record.Writable (r : Record) : Prop where
  id : Numeral.Short r.id
  score : Numeral.Short r.score
  findings : ∀ f ∈ r.findings, f.Writable
  created : r.created.Fits

/-- The record of a report can be written if the report can. -/
theorem Record.writable_ofReport {id : Int} {report : Report} {created : Time.Stamp}
    (hid : Numeral.Short id) (hreport : report.Writable) (hcreated : created.Fits)
    (code language : String) : (Record.ofReport id code language report created).Writable :=
  ⟨hid, hreport.score, hreport.findings, hcreated⟩

/-! ## 2. The checks -/

/-- A list of values that are taken back one by one is taken back. -/
theorem checkItems_map {α : Type} {check : Json → Checked α} {toJson : α → Json}
    (back : ∀ a, check (toJson a) = .ok a) (as : List α) :
    ∀ index, checkItems check index (as.map toJson) = .ok as := by
  induction as with
  | nil => exact fun _ => rfl
  | cons a as ih =>
    intro index
    rw [List.map_cons, checkItems, back a, ih]
    rfl

theorem checkOptionalText_ofText? (s : Option String) :
    checkOptionalText (.ofText? s) = .ok s := by
  cases s <;> rfl

theorem checkStamp_render {s : Time.Stamp} (h : s.Fits) : checkStamp (.text s.render) = .ok s := by
  simp [checkStamp, checkRead, Time.read_render h, Time.checked_of_fits h]

/-- **The checks take what a record is written as.** -/
theorem checkRecord_toJson {r : Record} (h : r.created.Fits) : checkRecord r.toJson = .ok r := by
  obtain ⟨id, code, language, score, findings, rewritten, created⟩ := r
  have hfindings : checkList checkFinding (.list (findings.map Finding.toJson)) = .ok findings :=
    checkItems_map checkFinding_toJson findings 0
  have hrewritten := checkOptionalText_ofText? rewritten
  have hcreated := checkStamp_render h
  simp only at hcreated
  simp [checkRecord, checkObject, Record.toJson, field, optionalField, findMember, Entries.find?,
    hfindings, hrewritten, hcreated, checkInteger, checkText, Checked.under, Checked.of, Checked.ap]

/-! ## 3. The texts -/

theorem Finding.readable_toJson {f : Finding} (h : f.Writable) (room : Nat) :
    Json.Readable (room + 1) f.toJson := by
  refine Json.Readable.object (by simp) (by simp) ?_
  simp only [List.forall_mem_cons, List.not_mem_nil, false_imp_iff, implies_true, and_true]
  exact ⟨.text _, .text _, .int h, .text _, .text _⟩

theorem readable_ofText? (room : Nat) (s : Option String) : Json.Readable room (.ofText? s) := by
  cases s with
  | none => exact .null
  | some s => exact .text s

theorem Record.readable_toJson {r : Record} (h : r.Writable) (room : Nat) :
    Json.Readable (room + 3) r.toJson := by
  have hfindings : Json.Readable (room + 2) (.list (r.findings.map Finding.toJson)) := by
    refine .list fun item hitem => ?_
    obtain ⟨f, hf, rfl⟩ := List.mem_map.mp hitem
    exact Finding.readable_toJson (h.findings f hf) room
  refine Json.Readable.object (by simp) (by simp) ?_
  simp only [List.forall_mem_cons, List.not_mem_nil, false_imp_iff, implies_true, and_true]
  exact ⟨.int h.id, .text _, .text _, .int h.score, hfindings, readable_ofText? _ _, .text _⟩

/-- **The text of a record is read as the record.** -/
theorem Remote.decode_encode {r : Record} (h : r.Writable) :
    Remote.decode (Remote.encode r) = .ok r := by
  have hread : Json.read (Json.render r.toJson) = .ok r.toJson :=
    Json.read_render (Record.readable_toJson h 982)
  rw [Remote.decode, Remote.encode, hread]
  simp only [checkRecord_toJson h.created, Except.mapError]

/-- **The text of a record tells which record it is**: the record is read from it, and no other
record is written as it. -/
theorem Remote.text_tells_record {r : Record} (h : r.Writable) :
    Remote.decode (Remote.encode r) = .ok r ∧
      ∀ other : Record, other.Writable → Remote.encode other = Remote.encode r → other = r := by
  refine ⟨Remote.decode_encode h, fun other hother hsame => ?_⟩
  have hread : (.ok other : Except StoreError Record) = .ok r := by
    rw [← Remote.decode_encode hother, hsame, Remote.decode_encode h]
  exact Except.ok.inj hread

/-- A record whose rewrite is empty is not taken for one without a rewrite, whatever the source and
the messages have in them; its time is that of a leap day behind UTC. -/
theorem Remote.text_tells_record_of_two :
    let missing : Finding := ⟨.error, .high, 0, "\"\\\n\u0001\u2028é", "c"⟩
    let empty : Record := ⟨-7, "\t\x7b\"a\"\x7d", "perl", -1, [missing, missing], some "",
      ⟨1709251199000001, some (-570)⟩⟩
    let absent : Record := { empty with rewritten := none }
    Remote.decode (Remote.encode empty) = .ok empty ∧
      Remote.encode absent ≠ Remote.encode empty := by
  intro missing empty absent
  have hmissing : missing.Writable := Numeral.short_of_lt (by decide)
  have hcreated : empty.created.Fits :=
    ⟨by decide, by decide, fun offset hoffset => by cases hoffset; decide⟩
  have hempty : empty.Writable :=
    ⟨Numeral.short_of_lt (by decide), Numeral.short_of_lt (by decide),
      by simp [empty, hmissing], hcreated⟩
  have habsent : absent.Writable := ⟨hempty.id, hempty.score, hempty.findings, hempty.created⟩
  obtain ⟨hread, honly⟩ := Remote.text_tells_record hempty
  refine ⟨hread, fun hsame => ?_⟩
  have hrewritten := congrArg Record.rewritten (honly absent habsent hsame)
  cases hrewritten

end Critique
