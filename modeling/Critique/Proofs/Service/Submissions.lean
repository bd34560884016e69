/-
# Which submissions are taken

A submission is an object with a source of at least one character and one of four languages; further
members do not matter.  `Valid` says so of a value, and `complaints` says of every value what is
wrong with it: of an object, one complaint for each of the two fields that is missing or does not
fit, the source first; of any other value, that it is none.  A value without a complaint is a valid
one, and the check of a submission finds the complaints and nothing else (`checkSubmission_cases`),
before the archive is touched.

What is sent need not be a value.  A text that is no JSON is refused with status 500, as a faulty
submission is.  A text that is JSON but goes beyond what is read, which is an integer of more than
4300 digits or more lists and objects in one another than there is room for, is told with status 400
instead, even where it is an integer and so no submission at all (`overlong_refused`).  How much room
there is does not matter for the rest.

* `valid_iff` and `checkSubmission_cases`: what the check of a submission finds;
* `submission_answered`: what a submission is answered with, and what it leads to;
* `overlong_refused`: an integer that is not read.
-/
import Critique.Proofs.Page.Outcome
import Critique.Proofs.Service.Reading

namespace Critique

open Http

namespace Json

/-! ## 1. What is not read -/

variable {c : Char} {t : List Char} {ds : List Nat}

/-- A run of digits that does not begin with zero is one integer. -/
theorem readMagnitude_run (digits : (c :: t).map Text.asciiDigitValue? = ds.map some)
    (nonzero : c ≠ '0') : readMagnitude (c :: t) = some (.int ds, []) := by
  have hrun : Numeral.plainRun Text.asciiDigitValue? ((c :: t) ++ []) = (ds, []) :=
    Numeral.plainRun_append digits (by simp)
  have hds : ds ≠ [] := by
    rintro rfl
    exact absurd digits (by simp)
  obtain ⟨d, ds, rfl⟩ := List.exists_cons_of_ne_nil hds
  rw [List.append_nil] at hrun
  unfold readMagnitude
  split
  · next hzero => exact absurd (List.cons.inj hzero).1 nonzero
  · simp only [hrun, readFraction, readExponent, List.isEmpty_nil, if_true]

/-- No other character is among digits. -/
theorem notMem_of_digits (digits : (c :: t).map Text.asciiDigitValue? = ds.map some) (other : Char)
    (hother : Text.asciiDigitValue? other = none) : other ∉ c :: t := by
  intro hmem
  have hnone : none ∈ (c :: t).map Text.asciiDigitValue? :=
    List.mem_map.mpr ⟨other, hmem, hother⟩
  rw [digits] at hnone
  exact absurd hnone (by simp)

/-- **An integer of too many digits is not read**, though it is JSON. -/
theorem readWhole_long (digits : (c :: t).map Text.asciiDigitValue? = ds.map some)
    (nonzero : c ≠ '0') (long : Numeral.digitLimit < ds.length) (room : Nat) :
    readWhole (c :: t) room = .error (.numeral (.tooLong ds.length)) := by
  have hne (other : Char) (hother : Text.asciiDigitValue? other = none) : c ≠ other := by
    rintro rfl
    exact notMem_of_digits digits _ hother List.mem_cons_self
  have hgap : isGap c = false := by
    simp [isGap, hne ' ' rfl, hne '\t' rfl, hne '\n' rfl, hne '\r' rfl]
  have hmark : c ≠ '\uFEFF' := hne _ rfl
  have hminus : c ≠ '-' := hne _ rfl
  have hnumber : readNumber (c :: t) = .error (.numeral (.tooLong ds.length)) := by
    simp [readNumber, hminus, readMagnitude_run digits nonzero, Written.value,
      Numeral.withinLimit, long, Except.map, Except.mapError]
  -- no word, text, list or object begins with a digit
  have hvalue (fuel room : Nat) : readValue (fuel + 1) room (c :: t) =
      .error (.numeral (.tooLong ds.length)) := by
    rw [readValue_of_ne (hne _ rfl) (hne _ rfl), readPlain_of_ne (hne _ rfl) (hne _ rfl)
      (hne _ rfl) (hne _ rfl) (hne _ rfl) (hne _ rfl) (word?_of_ne "-Infinity" rfl hminus t), hnumber]
  rw [readWhole]
  simp only [List.head?_cons, Option.some.injEq, hmark, if_false, skipGap_of_not hgap, hvalue,
    bind, Except.bind]

end Json

namespace Service

/-- **A body that is an integer of too many digits cannot be parsed.** -/
theorem contentValue_long {c : Char} {t : List Char} {ds : List Nat}
    (digits : (c :: t).map Text.asciiDigitValue? = ds.map some)
    (nonzero : c ≠ '0') (long : Numeral.digitLimit < ds.length) (room : Nat) :
    contentValue (some ⟨String.ofList (c :: t), "application/json"⟩) room =
      .error .unreadable := by
  have hne : String.ofList (c :: t) ≠ "" := by
    intro he
    have hlist := congrArg String.toList he
    rw [String.toList_ofList] at hlist
    exact absurd hlist (by simp)
  have hmark : Json.withoutMark (c :: t) = c :: t := by
    unfold Json.withoutMark
    split
    · next hcons =>
      refine absurd ?_ (Json.notMem_of_digits digits '\uFEFF' rfl)
      rw [hcons]
      exact List.mem_cons_self
    · rfl
  have hutf := Json.characters?_of_notMem (Json.notMem_of_digits digits '\x00' rfl)
  have hread :
      Json.read (String.ofList (c :: t)) room = .error (.numeral (.tooLong ds.length)) := by
    rw [Json.read, String.toList_ofList, Json.readWhole_long digits nonzero long]
    rfl
  simp only [contentValue, hne, Http.isJson_json, String.toList_ofList, hutf, hmark,
    spelledValue, hread]
  rfl

/-- A body of so many digits cannot be parsed. -/
theorem contentValue_ones {count : Nat} (h : Numeral.digitLimit < count) (room : Nat) :
    contentValue (some ⟨ones count, "application/json"⟩) room = .error .unreadable := by
  obtain ⟨more, rfl⟩ : ∃ more, count = more + 1 := ⟨count - 1, by omega⟩
  have hdigits : ('1' :: List.replicate more '1').map Text.asciiDigitValue? =
      (List.replicate (more + 1) 1).map some := by
    rw [← List.replicate_succ, List.map_replicate, List.map_replicate]
    rfl
  rw [ones, List.replicate_succ]
  exact contentValue_long hdigits (by decide) (by rwa [List.length_replicate]) room

/-! ## 2. Complaints -/

/-- What is wrong with a source. -/
def codeReason : Json → Option String
  | .text s => if s = "" then some "String should have at least 1 character" else none
  | .broken _ => some "Input should be a valid string, unable to parse raw data as a unicode string"
  | _ => some "Input should be a valid string"

/-- What is wrong with a language. -/
def languageReason : Json → Option String
  | .text s =>
    if s ∈ ["javascript", "python", "typescript", "java"] then none
    else some "Input should be 'javascript', 'python', 'typescript' or 'java'"
  | .broken _ => some "Input should be a valid string, unable to parse raw data as a unicode string"
  | _ => some "Input should be 'javascript', 'python', 'typescript' or 'java'"

/-- The complaint about a field of a value: the field is missing, or there is something wrong. -/
def complaint (name : String) (reason : Json → Option String) (value : Json) : Option String :=
  match value.member? name with
  | none => some (name ++ ": Field required")
  | some field => (reason field).map fun text => name ++ ": " ++ text

/-- What is wrong with a submission. -/
def complaints : Json → List String
  | .object members =>
    (complaint "code" codeReason (.object members)).toList ++
      (complaint "language" languageReason (.object members)).toList
  | _ => ["body: Input should be a valid dictionary or instance of AnalyzeRequest"]

/-- A submission as it has to be. -/
def Valid (value : Json) : Prop :=
  ∃ code language, value.member? "code" = some (.text code) ∧ code ≠ "" ∧
    value.member? "language" = some (.text language) ∧
    language ∈ ["javascript", "python", "typescript", "java"]

theorem codeReason_eq_none {field : Json} :
    codeReason field = none ↔ ∃ code, field = .text code ∧ code ≠ "" := by
  cases field with
  | text s =>
    by_cases hs : s = ""
    · simp [codeReason, hs]
    · simp [codeReason, hs]
  | _ => simp [codeReason]

theorem languageReason_eq_none {field : Json} :
    languageReason field = none ↔
      ∃ language, field = .text language ∧
        language ∈ ["javascript", "python", "typescript", "java"] := by
  cases field with
  | text s =>
    by_cases hs : s ∈ ["javascript", "python", "typescript", "java"]
    · rw [languageReason, if_pos hs]
      exact iff_of_true rfl ⟨s, rfl, hs⟩
    · rw [languageReason, if_neg hs]
      refine iff_of_false (by simp) ?_
      rintro ⟨language, hlanguage, hmem⟩
      exact hs (Json.text.inj hlanguage ▸ hmem)
  | _ => simp [languageReason]

theorem complaint_eq_none {name : String} {reason : Json → Option String} {value : Json} :
    complaint name reason value = none ↔
      ∃ field, value.member? name = some field ∧ reason field = none := by
  unfold complaint
  cases value.member? name with
  | none => simp
  | some field => simp

/-- **A value without a complaint is a valid one.** -/
theorem valid_iff {value : Json} : Valid value ↔ complaints value = [] := by
  cases value with
  | object members =>
    rw [complaints, List.append_eq_nil_iff, Option.toList_eq_nil_iff, Option.toList_eq_nil_iff,
      complaint_eq_none, complaint_eq_none]
    constructor
    · rintro ⟨code, language, hcode, hne, hlanguage, hmem⟩
      exact ⟨⟨_, hcode, codeReason_eq_none.mpr ⟨code, rfl, hne⟩⟩,
        ⟨_, hlanguage, languageReason_eq_none.mpr ⟨language, rfl, hmem⟩⟩⟩
    · rintro ⟨⟨_, hcode, hfits⟩, ⟨_, hlanguage, hchosen⟩⟩
      obtain ⟨code, rfl, hne⟩ := codeReason_eq_none.mp hfits
      obtain ⟨language, rfl, hmem⟩ := languageReason_eq_none.mp hchosen
      exact ⟨code, language, hcode, hne, hlanguage, hmem⟩
  | _ => simp [Valid, complaints, Json.member?]

/-! ## 3. The check of a submission -/

/-- A check finds what a reason tells: nothing, or one fault with this wording. -/
def Finds {α : Type} (check : Json → Checked α) (reason : Json → Option String) : Prop :=
  ∀ value, (∃ x, check value = .ok x ∧ reason value = none) ∨
    ∃ cause, check value = faulty cause ∧ reason value = some cause.message

theorem finds_codeReason : Finds checkNonempty codeReason := by
  intro value
  cases value with
  | text s =>
    by_cases hs : s = ""
    · exact .inr ⟨.emptyText, if_pos hs, if_pos hs⟩
    · exact .inl ⟨s, if_neg hs, if_neg hs⟩
  | broken codePoints => exact .inr ⟨.brokenText, rfl, rfl⟩
  | _ => exact .inr ⟨.notText, rfl, rfl⟩

/-- A name is one of the four exactly if a language has it. -/
theorem ofName?_eq_none {s : String} :
    Language.ofName? s = none ↔ s ∉ ["javascript", "python", "typescript", "java"] := by
  have hnames : ["javascript", "python", "typescript", "java"] = Language.all.map Language.name :=
    rfl
  rw [Language.ofName?, List.find?_eq_none, hnames, List.mem_map]
  simp only [beq_iff_eq, not_exists, not_and]

theorem finds_languageReason :
    Finds (checkChoice languageNames Language.ofName?) languageReason := by
  have hwording : (Cause.notOneOf languageNames).message =
      "Input should be 'javascript', 'python', 'typescript' or 'java'" := by decide
  intro value
  cases value with
  | text s =>
    cases hfind : Language.ofName? s with
    | none =>
      have hs := ofName?_eq_none.mp hfind
      refine .inr ⟨.notOneOf languageNames, ?_, ?_⟩
      · simp [checkChoice, hfind]
      · rw [languageReason, if_neg hs, hwording]
    | some language =>
      have hs : s ∈ ["javascript", "python", "typescript", "java"] := by
        by_contra hout
        rw [ofName?_eq_none.mpr hout] at hfind
        exact absurd hfind (by simp)
      refine .inl ⟨language, ?_, ?_⟩
      · simp [checkChoice, hfind]
      · rw [languageReason, if_pos hs]
  | broken codePoints => exact .inr ⟨.brokenText, rfl, rfl⟩
  | _ => exact .inr ⟨.notOneOf languageNames, rfl, congrArg some hwording.symm⟩

/-- The fault of a field, as it is reported. -/
theorem message_field {name : String} (named : name ≠ "") (cause : Cause) :
    Fault.message ⟨[.name name], cause⟩ = name ++ ": " ++ cause.message := by
  have hpath : ".".intercalate ([Hop.name name].map Hop.text) = name := rfl
  have hempty : name.isEmpty = false := by simpa using named
  rw [Fault.message]
  simp only [hpath, hempty]
  rfl

/-- **The check of a field finds the complaint about it**, and nothing else. -/
theorem field_cases {α : Type} {check : Json → Checked α} {reason : Json → Option String}
    (finds : Finds check reason) (name : String) (named : name ≠ "")
    (members : List (Json.Key × Json)) :
    (∃ x, field [name] check members = .ok x ∧ complaint name reason (.object members) = none) ∨
      ∃ fault, field [name] check members = .error [fault] ∧
        complaint name reason (.object members) = some fault.message := by
  unfold complaint
  rw [Json.member?_object]
  cases hfind : Entries.find? (.text name) members with
  | none =>
    refine .inr ⟨⟨[.name name], .missing⟩, ?_, ?_⟩
    · simp [field, findMember, hfind]
    · rw [message_field named, String.append_assoc]
      rfl
  | some value =>
    rw [field_of_find? check hfind]
    rcases finds value with ⟨x, hx, hreason⟩ | ⟨cause, hcause, hreason⟩
    · exact .inl ⟨x, by rw [hx]; rfl, by simp only [hreason, Option.map_none]⟩
    · refine .inr ⟨⟨[.name name], cause⟩, by rw [hcause]; rfl, ?_⟩
      rw [message_field named]
      simp only [hreason, Option.map_some]

/-- **The check of a submission finds the complaints**, and nothing else. -/
theorem checkSubmission_cases (value : Json) :
    (∃ submission, checkSubmission value = .ok submission ∧ complaints value = []) ∨
      ∃ faults, checkSubmission value = .error faults ∧ faults ≠ [] ∧
        complaints value = faults.map Fault.message := by
  cases value with
  | object members =>
    rw [checkSubmission, checkObject, complaints]
    rcases field_cases finds_codeReason "code" (by decide) members with
      ⟨code, hcode, hnone⟩ | ⟨fault, hcode, hsome⟩
    · rcases field_cases finds_languageReason "language" (by decide) members with
        ⟨language, hlanguage, hnone'⟩ | ⟨fault', hlanguage, hsome'⟩
      · refine .inl ⟨⟨code, language⟩, ?_, ?_⟩
        · rw [hcode, hlanguage]
          rfl
        · rw [hnone, hnone']
          rfl
      · refine .inr ⟨[fault'], ?_, by simp, ?_⟩
        · rw [hcode, hlanguage]
          rfl
        · rw [hnone, hsome']
          rfl
    · rcases field_cases finds_languageReason "language" (by decide) members with
        ⟨language, hlanguage, hnone'⟩ | ⟨fault', hlanguage, hsome'⟩
      · refine .inr ⟨[fault], ?_, by simp, ?_⟩
        · rw [hcode, hlanguage]
          rfl
        · rw [hsome, hnone']
          rfl
      · refine .inr ⟨[fault, fault'], ?_, by simp, ?_⟩
        · rw [hcode, hlanguage]
          rfl
        · rw [hsome, hsome']
          rfl
  | _ => exact .inr ⟨_, rfl, by simp, rfl⟩

/-! ## 4. What is answered -/

/-- Where no command is made to fail, a record that is made is added. -/
theorem create_gains {a : Archive} (working : a.store.Working) {last : Nat}
    (upTo : a.store.UpTo last) (short : Numeral.Short ((last : Int) + 1)) (code language : String)
    (report : Report) : ∃ r a', a.create code language report = (.ok r, a') ∧
      a.Made code language report r a' ∧ a.store.Gains r a'.store := by
  rcases Archive.create_all_or_nothing upTo short code language report with
    ⟨r, a', hcreate, -, hgains, -⟩ | ⟨message, -, -, hrefuses, -⟩
  · rcases Archive.create_working working code language report with
      ⟨error, hfails⟩ | ⟨r', a'', hmakes, hmade⟩
    · exact absurd (hcreate.symm.trans hfails) (by simp)
    · obtain ⟨rfl, rfl⟩ : r = r' ∧ a' = a'' := by simpa using hcreate.symm.trans hmakes
      exact ⟨r, a', hcreate, hmade, hgains⟩
  · exact absurd hrefuses (working.not_refuses message)

section

variable {room : Nat} {content : Option Content} {value : Json}

/-- A valid submission is answered with its report, and its record is added. -/
theorem submit_valid {a : Archive} (working : a.store.Working) {last : Nat}
    (upTo : a.store.UpTo last) (short : Numeral.Short ((last : Int) + 1))
    (hvalue : contentValue content room = .ok value) (valid : Valid value) :
    ∃ r : Record,
      (submit a content room).1 = .ofJson 200 (.object (("id", .int r.id) ::
        (Report.analyze r.code r.language).members)) ∧
      a.store.Gains r (submit a content room).2.store ∧
      (submit a content room).2.clock = a.clock.tick ∧
      value.member? "code" = some (.text r.code) ∧
      value.member? "language" = some (.text r.language) := by
  rcases checkSubmission_cases value with ⟨submission, hchecked, -⟩ | ⟨faults, -, hne, hsome⟩
  · obtain ⟨r, a', hcreate, hmade, hgains⟩ := create_gains working upTo short submission.code
      submission.language.name submission.report
    obtain ⟨code, language, hcode, -, hlanguage, -⟩ := valid
    obtain ⟨rfl, rfl⟩ := member_of_checkSubmission hchecked hcode hlanguage
    rw [submit_eq a hvalue hchecked, hcreate]
    refine ⟨r, ?_, hgains, hmade.clock, ?_, ?_⟩
    · rw [hmade.record]
      rfl
    · rw [hmade.record]
      exact hcode
    · rw [hmade.record]
      exact hlanguage
  · rw [valid_iff.mp valid] at hsome
    exact absurd (List.map_eq_nil_iff.mp hsome.symm) hne

/-- A submission with complaints is refused with all of them, and nothing changes. -/
theorem submit_invalid (a : Archive) (hvalue : contentValue content room = .ok value)
    (invalid : ¬ Valid value) :
    submit a content room = (failure 500 ("; ".intercalate (complaints value)), a) := by
  rcases checkSubmission_cases value with ⟨-, -, hnone⟩ | ⟨faults, hchecked, -, hcomplaints⟩
  · exact absurd (valid_iff.mpr hnone) invalid
  · simp only [submit, hvalue, hchecked, hcomplaints, faultsMessage]

/-- What cannot be parsed is refused, and nothing changes. -/
theorem respond_unreadable (a : Archive) {query : List (String × String)}
    (h : contentValue content room = .error .unreadable) :
    respond a ⟨"POST", ⟨"/api/analyze", query⟩, content⟩ room =
      (refusal 400 "There was an error parsing the body", a) := by
  rw [respond_submit a rfl rfl room, submit, h]

end

/-- **Exactly the valid submissions are taken, and the others change nothing.**  Whatever has
happened at a site since it was new, where no command is made to fail now: a valid submission is
answered with status 200 and the report, and its record is added; any other value is refused with
status 500 and all complaints about it, and neither records nor counter nor clock are touched.  What
holds no value changes nothing either, and every value that is sent in its compact form is read, if
there is room for it.  The number of what has happened has at most 4300 digits. -/
theorem submission_answered {site : Page.Site} (new : site.IsNew) {moves : List Page.Move}
    (few : Numeral.Short (moves.length + 1)) (working : (site.follow moves).archive.store.Working)
    {request : Request} (posted : request.method = "POST")
    (toSubmit : request.target.path = "/api/analyze") (room : Nat) :
    let a := (site.follow moves).archive
    let answered := respond a request room
    (∀ value, contentValue request.content room = .ok value →
      (Valid value → ∃ r : Record,
        answered.1 = .ofJson 200 (.object (("id", .int r.id) ::
          (Report.analyze r.code r.language).members)) ∧
        a.store.Gains r answered.2.store ∧ answered.2.clock = a.clock.tick ∧
        value.member? "code" = some (.text r.code) ∧
        value.member? "language" = some (.text r.language)) ∧
      (¬ Valid value → answered = (failure 500 ("; ".intercalate (complaints value)), a))) ∧
    (contentValue request.content room = .error .malformed →
      answered = (failure 500 "Invalid request body", a)) ∧
    (contentValue request.content room = .error .unreadable →
      answered = (refusal 400 "There was an error parsing the body", a)) ∧
    ∀ value, Json.Readable room value →
      contentValue (some ⟨Json.render value, "application/json"⟩) room = .ok value := by
  intro a answered
  have hreached : (site.follow moves).Reached (0 + moves.length) :=
    new.reached.follow moves (Numeral.short_of_le (by omega) few)
  rw [Nat.zero_add] at hreached
  obtain ⟨last, hlast, hupTo⟩ := hreached.within
  have hroute : Route.ofPath? request.target.path = some .submit := by
    rw [toSubmit]
    decide
  have hanswered : answered = submit a request.content room := respond_submit a posted hroute room
  rw [hanswered]
  refine ⟨fun value hvalue => ⟨?_, submit_invalid a hvalue⟩, fun hmalformed => ?_,
    fun hunreadable => ?_, fun value => contentValue_render⟩
  · exact submit_valid working hupTo (short_succ_of_le hlast few) hvalue
  · rw [submit, hmalformed]
  · rw [submit, hunreadable]

/-- After a failure that is over, a submission is taken, and one with two faults is refused with a
complaint about each. -/
theorem submission_answered_of_two :
    let site : Page.Site := ⟨fun _ => .empty, ⟨.remote .empty, ⟨fun _ => 0, 0⟩⟩⟩
    let moves : List Page.Move := [.fail (some (.commit, "away")), .fail none]
    let a := (site.follow moves).archive
    let post (value : Json) : Request :=
      ⟨"POST", ⟨"/api/analyze", []⟩, some ⟨Json.render value, "application/json"⟩⟩
    (∃ content, (respond a (post (Submission.toJson ⟨"x = 1", .python⟩))).1 = .ofJson 200 content) ∧
      respond a (post (.object [("language", .text "ruby"), ("code", .text "")])) =
        (failure 500 ("; ".intercalate ["code: String should have at least 1 character",
          "language: Input should be 'javascript', 'python', 'typescript' or 'java'"]), a) := by
  intro site moves a post
  have hnew : site.IsNew := ⟨fun _ => rfl, .inr rfl⟩
  have few : Numeral.Short (moves.length + 1) :=
    Numeral.short_of_lt (show ((2 : Int) + 1).natAbs < 2 ^ 64 by decide)
  have hworking : (site.follow moves).archive.store.Working := rfl
  have answered (value : Json) := submission_answered hnew few hworking
    (show (post value).method = "POST" from rfl) rfl Json.nestingLimit
  constructor
  · have hcode : (Submission.toJson ⟨"x = 1", .python⟩).member? "code" = some (.text "x = 1") := by
      simp [Submission.toJson, Entries.find?]
    have hlanguage : (Submission.toJson ⟨"x = 1", .python⟩).member? "language" =
        some (.text "python") := by
      simp [Submission.toJson, Language.name, Entries.find?]
    obtain ⟨hvalues, -⟩ := answered (Submission.toJson ⟨"x = 1", .python⟩)
    obtain ⟨htaken, -⟩ := hvalues _ (Submission.contentValue_toJson ⟨"x = 1", .python⟩)
    obtain ⟨r, hanswer, -⟩ := htaken ⟨_, _, hcode, by decide, hlanguage, by decide⟩
    exact ⟨_, hanswer⟩
  · have hreadable : Json.Readable Json.nestingLimit
        (.object [("language", .text "ruby"), ("code", .text "")]) := by
      show Json.Readable (984 + 1) _
      refine Json.Readable.object (by simp) (by simp) ?_
      simp only [List.forall_mem_cons, List.not_mem_nil, false_imp_iff, implies_true, and_true]
      exact ⟨.text _, .text _⟩
    have hcomplaints : complaints (.object [("language", .text "ruby"), ("code", .text "")]) =
        ["code: String should have at least 1 character",
          "language: Input should be 'javascript', 'python', 'typescript' or 'java'"] := by
      simp [complaints, complaint, codeReason, languageReason, Entries.find?]
    obtain ⟨hvalues, -⟩ := answered (.object [("language", .text "ruby"), ("code", .text "")])
    obtain ⟨-, hrefused⟩ := hvalues _ (contentValue_render hreadable)
    have hinvalid : ¬ Valid (.object [("language", .text "ruby"), ("code", .text "")]) := by
      rw [valid_iff, hcomplaints]
      exact List.cons_ne_nil _ _
    rw [hcomplaints] at hrefused
    have hanswer := hrefused hinvalid
    exact hanswer

/-- **An integer of 4301 digits is not answered with status 500**, though it is JSON and no object:
it is refused before it is known to be none, whatever room there is. -/
theorem overlong_refused :
    let a : Archive := ⟨.memory .empty, ⟨fun _ => 0, 0⟩⟩
    ∀ room, respond a ⟨"POST", ⟨"/api/analyze", []⟩, some ⟨ones 4301, "application/json"⟩⟩ room =
      (refusal 400 "There was an error parsing the body", a) := by
  intro a room
  exact respond_unreadable a (contentValue_ones (by decide) room)

end Service

end Critique
