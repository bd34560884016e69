/-
# What is submitted can be fetched

A submission that is answered with status 200 gets a number, and whoever asks for the record of that
number later in the run gets back what was submitted and what was answered: source, language, score
and findings as they were, and the rewrite, which an answer leaves out and a record has as null
where there is none.

The record is made when the submission is taken (`Taken`), and no later request takes it away
(`after_keeps`).  What remains is to see that it is the record that is asked for, through the path of
the request (`ofPath?_recordBase`, `Numeral.leading_text`), and that it can be read back from the
text that a server keeps, for which its numbers must be short.  They are, if the number of lines of
the source is; no other request has a say in it.

* `member_of_checkSubmission`: a submission is checked without being changed;
* `respond_record`: a record that is kept is answered to whoever asks for it;
* `record_returned`: what is submitted can be fetched.
-/
import Critique.Proofs.Json.Encoding
import Critique.Proofs.Report.Numbers
import Critique.Proofs.Service.Run
import Critique.Proofs.Text.Leading

namespace Critique

open Http

/-! ## 1. Submissions -/

/-- A field that is found is the one that is checked. -/
theorem field_of_find? {α : Type} {name : String} (check : Json → Checked α)
    {members : List (Json.Key × Json)} {value : Json}
    (h : Entries.find? (.text name) members = some value) :
    field [name] check members = (check value).under (.name name) := by
  simp [field, findMember, h]

/-- A text that is checked for not being empty is not changed. -/
theorem checkNonempty_text {s t : String} (h : checkNonempty (.text s) = .ok t) : s = t := by
  rw [checkNonempty, checkText] at h
  simp only at h
  split at h
  · exact absurd h (by simp [faulty])
  · exact Except.ok.inj h

/-- The language that is chosen by a name has that name. -/
theorem checkLanguage_text {s : String} {language : Language}
    (h : checkChoice languageNames Language.ofName? (.text s) = .ok language) :
    language.name = s := by
  cases hfind : Language.ofName? s with
  | none => exact absurd h (by simp [checkChoice, hfind, faulty])
  | some found =>
    obtain rfl : found = language := by simpa [checkChoice, hfind] using h
    have := List.find?_some hfind
    exact eq_of_beq this

/-- **A submission is checked without being changed.** -/
theorem member_of_checkSubmission {value : Json} {submission : Submission}
    (h : checkSubmission value = .ok submission) {code language : String}
    (hcode : value.member? "code" = some (.text code))
    (hlanguage : value.member? "language" = some (.text language)) :
    submission.code = code ∧ submission.language.name = language := by
  cases value with
  | object members =>
    rw [Json.member?_object] at hcode hlanguage
    rw [checkSubmission, checkObject, field_of_find? _ hcode, field_of_find? _ hlanguage,
      Checked.ap_ok_iff] at h
    obtain ⟨make, l, hmake, hl, rfl⟩ := h
    obtain ⟨start, c, hstart, hc, rfl⟩ := Checked.ap_ok_iff.mp hmake
    obtain rfl : Submission.mk = start := Except.ok.inj hstart
    exact ⟨(checkNonempty_text (Checked.under_ok_iff.mp hc)).symm,
      checkLanguage_text (Checked.under_ok_iff.mp hl)⟩
  | _ => exact absurd hcode (by simp [Json.member?])

/-- **A value that is sent in its compact form is read as it was.** -/
theorem Service.contentValue_render {room : Nat} {value : Json} (h : Json.Readable room value) :
    Service.contentValue (some ⟨Json.render value, "application/json"⟩) room = .ok value := by
  have hne : Json.render value ≠ "" := by
    obtain ⟨c, t, hcons, -⟩ := Json.write_eq_cons Json.Layout.dense h 0
    intro he
    have hlist := congrArg String.toList he
    rw [Json.render, String.toList_ofList, Json.compact_eq_write h 0, hcons] at hlist
    exact absurd hlist (by simp)
  simp only [Service.contentValue, hne, Http.isJson_json, Json.characters?_render h,
    Service.spelledValue, String.ofList_toList, Json.read_render h]
  rfl

namespace Submission

variable {s : Submission}

theorem readable_toJson (s : Submission) : Json.Readable Json.nestingLimit s.toJson := by
  show Json.Readable (984 + 1) s.toJson
  refine Json.Readable.object (by simp) (by simp) ?_
  simp only [List.forall_mem_cons, List.not_mem_nil, false_imp_iff, implies_true, and_true]
  exact ⟨.text _, .text _⟩

/-- **A submission that is sent is read as it was.** -/
theorem contentValue_toJson (s : Submission) :
    Service.contentValue (some ⟨Json.render s.toJson, "application/json"⟩) = .ok s.toJson :=
  Service.contentValue_render s.readable_toJson

/-- A submission of a source that is not empty fits. -/
theorem checkSubmission_toJson (h : s.code ≠ "") : checkSubmission s.toJson = .ok s := by
  simp [checkSubmission, checkObject, Submission.toJson, field, findMember, Entries.find?,
    checkNonempty, checkText, h, checkChoice, Language.ofName?_name, Checked.under, Checked.of,
    Checked.ap]

end Submission

/-! ## 2. Paths of records -/

namespace Route

/-- A path that begins like those of records is no fixed one that does not. -/
theorem isFixed_recordBase {fixed : String} (segment : String)
    (h : ¬ recordBase.toList <+: fixed.toList ++ ['\n']) :
    isFixed fixed (recordBase ++ segment) = false := by
  rw [isFixed, Bool.or_eq_false_iff, beq_eq_false_iff_ne, beq_eq_false_iff_ne]
  constructor
  · intro he
    refine h ?_
    rw [← he, String.toList_append, List.append_assoc]
    exact List.prefix_append _ _
  · intro he
    refine h ?_
    have hlist := congrArg String.toList he
    rw [String.toList_append, String.toList_append] at hlist
    exact ⟨segment.toList, hlist⟩

/-- **The path of a segment leads to the record of that segment.** -/
theorem ofPath?_recordBase {segment : String} (hne : segment ≠ "") (hslash : '/' ∉ segment.toList) :
    ofPath? (recordBase ++ segment) = some (record segment) := by
  have hsegment : segment? (recordBase ++ segment) = some segment := by
    have hlist : (recordBase ++ segment).toList = recordBase.toList ++ segment.toList :=
      String.toList_append
    have hdrop : (recordBase.toList ++ segment.toList).drop recordBase.length = segment.toList :=
      List.drop_left
    have hbegins : Text.begins (recordBase.toList ++ segment.toList) recordBase = true :=
      List.isPrefixOf_iff_prefix.mpr (List.prefix_append _ _)
    have hempty : segment.toList.isEmpty = false :=
      List.isEmpty_eq_false_iff.mpr fun he => hne (String.toList_eq_nil_iff.mp he)
    have hwithout : segment.toList.contains '/' = false := by simpa using hslash
    rw [segment?, hlist]
    simp only [hdrop, hbegins, hempty, hwithout, String.ofList_toList]
    rfl
  rw [ofPath?, isFixed_recordBase segment (by decide), isFixed_recordBase segment (by decide),
    isFixed_recordBase segment (by decide), hsegment]
  rfl

/-- The path of a number leads to the record of that number. -/
theorem ofPath?_number (id : Int) :
    ofPath? (recordBase ++ Numeral.text id) = some (record (Numeral.text id)) :=
  ofPath?_recordBase (Numeral.text_ne_empty id) (Numeral.notMem_text rfl (by decide) id)

end Route

namespace Service

/-! ## 3. What requests leave in place -/

variable {a : Archive} {q r : Record}

/-- No request takes a record away. -/
theorem respond_keeps (h : a.store.Working) (hkeeps : a.store.Keeps q) (request : Request) :
    (respond a request).2.store.Keeps q := by
  rcases respond_working_cases h request with hsame | ⟨-, hsubmit, submission, r, htaken⟩
  · rwa [hsame]
  · rw [hsubmit]
    exact htaken.made.kept q hkeeps

/-- **No run takes a record away.** -/
theorem after_keeps (h : a.store.Working) (hkeeps : a.store.Keeps q) (requests : List Request) :
    (after a requests).store.Working ∧ (after a requests).store.Keeps q :=
  after_induction (P := fun a => a.store.Working ∧ a.store.Keeps q)
    (fun _ request h => ⟨respond_working h.1 request, respond_keeps h.1 h.2 request⟩)
    ⟨h, hkeeps⟩ requests

/-- An archive that can take so many more submissions. -/
structure Ready (a : Archive) (count : Nat) : Prop where
  working : a.store.Working
  room : a.store.HasRoom count
  years : a.clock.InYears count

theorem Ready.mono {count fewer : Nat} (h : Ready a count) (hle : fewer ≤ count) : Ready a fewer :=
  ⟨h.working, h.room.mono hle, h.years.mono hle⟩

/-- A record that is made uses up one submission. -/
theorem Ready.made {count : Nat} (h : Ready a (count + 1)) {a' : Archive} {code language : String}
    {report : Report} (hmade : a.Made code language report r a') : Ready a' count := by
  refine ⟨hmade.working, hmade.room count h.room, ?_⟩
  rw [hmade.clock]
  exact h.years.tick

theorem Ready.respond {count : Nat} (h : Ready a (count + 1)) (request : Request) :
    Ready (Service.respond a request).2 count := by
  rcases respond_working_cases h.working request with hsame | ⟨-, hsubmit, submission, r, htaken⟩
  · rw [hsame]
    exact h.mono (Nat.le_succ count)
  · rw [hsubmit]
    exact h.made htaken.made

/-- Requests use up no more than one submission each. -/
theorem Ready.after {requests : List Request} {count : Nat} (h : Ready a (requests.length + count)) :
    Ready (Service.after a requests) count := by
  induction requests generalizing a with
  | nil => rwa [List.length_nil, Nat.zero_add] at h
  | cons request requests ih =>
    rw [List.length_cons, Nat.add_right_comm] at h
    exact ih (h.respond request)

/-! ## 4. Asking for a record -/

/-- **A record that is kept is answered to whoever asks for it.** -/
theorem respond_record (h : a.store.Working) (hkeeps : a.store.Keeps r) (hr : r.Writable)
    {request : Request} (hmethod : request.method = "GET")
    (hpath : request.target.path = Route.recordBase ++ Numeral.text r.id) :
    respond a request = (.ofJson 200 r.toJson, a) := by
  have hrecord : recordOf a (Numeral.text r.id) = .ok (some r) := by
    rw [recordOf, Numeral.leading_text hr.id]
    exact Archive.get_of_keeps h hkeeps hr
  have hroute : route a request = (.ofJson 200 r.toJson, a) := by
    rw [route, hpath, Route.ofPath?_number]
    simp only [hmethod, Route.method, if_true, answer, record, hrecord]
  have hhead : request.method ≠ "HEAD" := by
    rw [hmethod]
    decide
  rw [respond, hroute]
  simp only [if_neg hhead]

/-! ## 5. What comes back -/

/-- A record as it is answered returns what was submitted, and what was answered to that. -/
structure Returns (answered record : Json) (id : Int) (code language : String) : Prop where
  id : record.member? "id" = some (.int id)
  code : record.member? "code" = some (.text code)
  language : record.member? "language" = some (.text language)
  score : ∃ score, answered.member? "qualityScore" = some score ∧
    record.member? "qualityScore" = some score
  findings : ∃ findings, answered.member? "issues" = some findings ∧
    record.member? "issues" = some findings
  rewritten : ∀ text, answered.member? "optimizedCode" = some text →
    text ≠ .null ∧ record.member? "optimizedCode" = some text
  plain : answered.member? "optimizedCode" = none → record.member? "optimizedCode" = some .null

/-- A record returns what the report that it was made of was answered as. -/
theorem returns_ofReport (id : Int) (code language : String) (report : Report)
    (created : Time.Stamp) :
    Returns (.object (("id", .int id) :: report.members))
      (Record.ofReport id code language report created).toJson id code language := by
  obtain ⟨score, findings, rewritten, tally⟩ := report
  refine ⟨rfl, rfl, rfl, ⟨_, rfl, rfl⟩, ⟨_, rfl, rfl⟩, ?_, ?_⟩
  · intro text htext
    cases rewritten with
    | none => exact absurd htext (by simp [Report.members, Entries.find?])
    | some rewrite =>
      obtain rfl : Json.text rewrite = text := Option.some.inj htext
      exact ⟨by simp, rfl⟩
  · intro hnone
    cases rewritten with
    | none => rfl
    | some rewrite => exact absurd hnone (by simp [Report.members, Entries.find?])

/-- An answer of status 200 to a submission is the report on it, under the number of its record. -/
theorem accepted_content (h : a.store.Working) {request : Request} {content : Json}
    (hmethod : request.method = "POST") (hpath : request.target.path = "/api/analyze")
    (hanswer : (respond a request).1 = ⟨200, some content⟩) :
    ∃ submission r, Taken a request.content submission r ∧
      (respond a request).2 = (submit a request.content).2 ∧
      content = .object (("id", .int r.id) :: submission.report.members) := by
  have hroute : Route.ofPath? request.target.path = some .submit := by
    rw [hpath]
    decide
  have hsubmit := respond_submit a hmethod hroute
  rcases submit_cases h request.content with ⟨hstatus, -⟩ | ⟨submission, r, htaken⟩
  · rw [← hsubmit, hanswer] at hstatus
    exact absurd rfl hstatus
  · refine ⟨submission, r, htaken, by rw [hsubmit], ?_⟩
    rw [hsubmit, htaken.answer] at hanswer
    exact (Option.some.inj (congrArg Response.content hanswer)).symm

/-- **What is submitted can be fetched.**  Where request `i` of a run over a fresh store submits a
source and is answered with status 200, every later request for the record of the number that it was
answered with is answered with status 200, whatever is requested in between, and what comes back is
what was submitted and answered.  The number of lines has at most 4300 digits, as that of every text
that fits anywhere. -/
theorem record_returned {a : Archive} (fresh : a.store.IsFresh) {requests : List Request}
    (few : requests.length < 2 ^ 63) (years : a.clock.InYears requests.length) {i j : Nat}
    (later : i < j) {submitting fetching : Request} (submitted : requests[i]? = some submitting)
    (posted : submitting.method = "POST") (toSubmit : submitting.target.path = "/api/analyze")
    {value : Json} {code language : String}
    (carried : contentValue submitting.content = .ok value)
    (source : value.member? "code" = some (.text code))
    (name : value.member? "language" = some (.text language))
    (short : Numeral.Short (Text.splitLines code.toList).length)
    {content : Json} (accepted : (answers a requests)[i]? = some ⟨200, some content⟩)
    {id : Int} (numbered : content.member? "id" = some (.int id))
    (fetched : requests[j]? = some fetching) (gotten : fetching.method = "GET")
    (toRecord : fetching.target.path = "/api/analysis/" ++ Numeral.text id) :
    ∃ record, (answers a requests)[j]? = some ⟨200, some record⟩ ∧
      Returns content record id code language := by
  -- the submission is taken by an archive that can take it
  have hi : i < requests.length := (List.getElem?_eq_some_iff.mp submitted).1
  have hready : Ready (after a (requests.take i)) (requests.length - i - 1 + 1) := by
    refine Ready.after ?_
    rw [List.length_take, Nat.min_eq_left (Nat.le_of_lt hi),
      show i + (requests.length - i - 1 + 1) = requests.length by omega]
    exact ⟨fresh.working, fresh.hasRoom (by omega), years⟩
  rw [getElem?_answers, submitted, Option.map_some, Option.some.injEq] at accepted
  obtain ⟨submission, r, htaken, hafter, rfl⟩ :=
    accepted_content hready.working posted toSubmit accepted
  obtain rfl : r.id = id := Json.int.inj (Option.some.inj numbered)
  -- its record is the one of what was submitted
  obtain ⟨value', hvalue', hchecked⟩ := htaken.read
  obtain rfl : value = value' := Except.ok.inj (carried.symm.trans hvalue')
  obtain ⟨rfl, rfl⟩ := member_of_checkSubmission hchecked source name
  have hr : r.Writable := by
    rw [htaken.made.record]
    exact Record.writable_ofReport (htaken.made.short _ hready.room)
      (Report.writable_analyze short _) hready.years.fits _ _
  -- and it is still there when it is asked for
  obtain ⟨between, hbetween⟩ := after_take_of_lt (a := a) later submitted
  obtain ⟨hworking, hkeeps⟩ :=
    after_keeps htaken.made.working (htaken.made.keeps _ hready.room) between
  rw [← hafter, ← hbetween] at hworking hkeeps
  refine ⟨r.toJson, ?_, ?_⟩
  · rw [getElem?_answers, fetched, Option.map_some,
      respond_record hworking hkeeps hr gotten toRecord]
    rfl
  · have hreturns := returns_ofReport r.id submission.code submission.language.name
      submission.report (after a (requests.take i)).clock.now
    rwa [← htaken.made.record] at hreturns

/-- A submission, a listing, a submission that is refused, and the record of the first one. -/
theorem record_returned_of_four :
    let a : Archive := ⟨.memory .empty, ⟨fun _ => 0, 0⟩⟩
    let submission : Submission := ⟨"x = 1", .python⟩
    let post (text : String) : Request :=
      ⟨"POST", ⟨"/api/analyze", []⟩, some ⟨text, "application/json"⟩⟩
    let get (path : String) : Request := ⟨"GET", ⟨path, []⟩, none⟩
    let requests := [post (Json.render submission.toJson), get "/api/analyses/recent", post "[]",
      get ("/api/analysis/" ++ Numeral.text 1)]
    ∃ record, (answers a requests)[3]? = some ⟨200, some record⟩ ∧
      Returns (.object (("id", .int 1) :: submission.report.members)) record 1 "x = 1" "python" := by
  intro a submission post get requests
  have years : a.clock.InYears requests.length := by
    intro k _
    show 1 ≤ (Time.Stamp.ofInstant 0).date.year ∧ (Time.Stamp.ofInstant 0).date.year ≤ 9999
    decide
  have carried := submission.contentValue_toJson
  have source : submission.toJson.member? "code" = some (.text "x = 1") := by
    simp [Submission.toJson, submission, Entries.find?]
  have name : submission.toJson.member? "language" = some (.text "python") := by
    simp [Submission.toJson, submission, Language.name, Entries.find?]
  have accepted : (answers a requests)[0]? =
      some ⟨200, some (.object (("id", .int 1) :: submission.report.members))⟩ := by
    have hsubmit := respond_submit a (show (post (Json.render submission.toJson)).method = _ from rfl)
      (by decide)
    have hchecked := Submission.checkSubmission_toJson (s := submission) (by decide)
    rw [answers, List.getElem?_cons_zero, hsubmit, submit_eq a carried hchecked]
    rfl
  have fetched : requests[3]? = some (get (Route.recordBase ++ Numeral.text 1)) := rfl
  have returned := record_returned (a := a) (.inl rfl)
    (show requests.length < 2 ^ 63 by decide) years (by decide : 0 < 3) rfl rfl rfl carried source
    name (Numeral.short_of_lt (by decide)) accepted (by simp [Entries.find?]) fetched rfl rfl
  exact returned

end Service

end Critique
