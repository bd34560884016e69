/-
# What is read

Two routes read and change nothing: one answers the record of a number, the other lists the latest
records.  Both take an integer from a text that may hold anything, the segment of a path or the
limit of a query, and both take the integer that the text begins with (`Numeral.Leads`).  Texts with
nothing of the kind are no failure: a segment has no record then, and a limit is as good as none.

One kind of text is a failure all the same.  Numerals have no more than 4300 digits, and a text that
begins with more of them (`Numeral.Overlong`) is refused by both routes with status 500, although
the text has an integer in front, and no record has such a number.  Over the store in memory this is
the only failure there is (`memory_reads`).

* `recordOf_cases` and `limitOf_of_asks`: what a segment and a limit ask for;
* `after_memory`: the store in memory keeps its records under the numbers of their places;
* `memory_reads`: what is read from the store in memory, and when it fails;
* `overlong_fails`: a segment and a limit of 4301 digits.
-/
import Critique.Proofs.Service.RoundTrip
import Critique.Proofs.Store.History

namespace Critique.Service

open Http
open Numeral (Leads Overlong)

/-! ## 1. The two routes -/

/-- A route that is asked by its method is answered as it is. -/
theorem respond_get (a : Archive) {request : Request} (route : Route)
    (hmethod : request.method = "GET") (hget : route.method = "GET")
    (hroute : Route.ofPath? request.target.path = some route) :
    respond a request = answer a request route := by
  have hhead : request.method ≠ "HEAD" := by
    rw [hmethod]
    decide
  have hsame : request.method = route.method := hmethod.trans hget.symm
  rw [respond, Service.route, hroute]
  simp only [hsame, if_true]
  rw [if_neg (hsame ▸ hhead)]

/-- A request for the record of a segment. -/
theorem respond_segment (a : Archive) {segment : String} (nonempty : segment ≠ "")
    (whole : '/' ∉ segment.toList) (query : List (String × String)) (content : Option Content) :
    respond a ⟨"GET", ⟨Route.recordBase ++ segment, query⟩, content⟩ = (record a segment, a) :=
  respond_get a (.record segment) rfl rfl (Route.ofPath?_recordBase nonempty whole)

/-- A request for the latest records. -/
theorem respond_recent (a : Archive) (query : List (String × String)) (content : Option Content) :
    respond a ⟨"GET", ⟨"/api/analyses/recent", query⟩, content⟩ =
      (recent a ⟨"/api/analyses/recent", query⟩, a) :=
  respond_get a .recent rfl rfl rfl

/-! ## 2. What is asked for -/

/-- How many records a limit asks for: as many as the integer says that the text begins with, and
ten where there is none, or zero, or no limit. -/
inductive Asks : Option String → Int → Prop
  | absent : Asks none 10
  | unread {text : String} (none : ∀ n, ¬ Leads text n) : Asks (some text) 10
  | zero {text : String} (leads : Leads text 0) : Asks (some text) 10
  | number {text : String} {n : Int} (leads : Leads text n) (nonzero : n ≠ 0) : Asks (some text) n

/-- Whatever a limit is, it asks for some number of records. -/
theorem exists_asks (limit : Option String) : ∃ n, Asks limit n := by
  cases limit with
  | none => exact ⟨10, .absent⟩
  | some text =>
    by_cases hleads : ∃ n, Leads text n
    · obtain ⟨n, hn⟩ := hleads
      by_cases hzero : n = 0
      · exact ⟨10, .zero (hzero ▸ hn)⟩
      · exact ⟨n, .number hn hzero⟩
    · exact ⟨10, .unread fun n hn => hleads ⟨n, hn⟩⟩

/-- No limit asks for zero records. -/
theorem Asks.ne_zero {limit : Option String} {n : Int} (h : Asks limit n) : n ≠ 0 := by
  cases h with
  | number _ nonzero => exact nonzero
  | _ => decide

/-- **What a limit asks for is what is listed**, if it is not overlong. -/
theorem limitOf_of_asks {t : Target} {n : Int} (h : Asks (t.queryValue? "limit") n)
    (fits : ∀ text ∈ t.queryValue? "limit", ¬ Overlong text) : limitOf t = .ok n := by
  cases hvalue : t.queryValue? "limit" with
  | none =>
    rw [hvalue] at h
    cases h
    simp only [limitOf, hvalue]
    rfl
  | some text =>
    rw [hvalue] at h
    have htext : ¬ Overlong text := fits text hvalue
    cases h with
    | unread none =>
      simp only [limitOf, hvalue, Numeral.leading_of_not_leads none]
      rfl
    | zero leads =>
      simp only [limitOf, hvalue, Numeral.leading_of_leads leads htext]
      rfl
    | number leads nonzero =>
      simp only [limitOf, hvalue, Numeral.leading_of_leads leads htext, bind, Except.bind,
        if_neg nonzero]
      rfl

/-- An overlong limit is refused. -/
theorem limitOf_of_overlong {t : Target} {text : String}
    (given : t.queryValue? "limit" = some text) (h : Overlong text) :
    ∃ flaw, limitOf t = .error flaw := by
  obtain ⟨flaw, hflaw⟩ := Numeral.leading_of_overlong h
  refine ⟨flaw, ?_⟩
  simp only [limitOf, given, hflaw]
  rfl

/-- **What a segment asks for**, if it is not overlong: the record of the integer that it begins
with, and none where there is no integer. -/
theorem recordOf_cases (a : Archive) {segment : String} (fits : ¬ Overlong segment) :
    (∃ n, Leads segment n ∧ recordOf a segment = a.get n) ∨
      (∀ n, ¬ Leads segment n) ∧ recordOf a segment = .ok none := by
  by_cases hleads : ∃ n, Leads segment n
  · obtain ⟨n, hn⟩ := hleads
    refine .inl ⟨n, hn, ?_⟩
    rw [recordOf, Numeral.leading_of_leads hn fits]
    rfl
  · have hnone : ∀ n, ¬ Leads segment n := fun n hn => hleads ⟨n, hn⟩
    refine .inr ⟨hnone, ?_⟩
    rw [recordOf, Numeral.leading_of_not_leads hnone]
    rfl

/-- An overlong segment is refused. -/
theorem record_of_overlong (a : Archive) {segment : String} (h : Overlong segment) :
    record a segment = failure 500 "Failed to retrieve analysis" := by
  obtain ⟨flaw, hflaw⟩ := Numeral.leading_of_overlong h
  have hrefused : recordOf a segment = .error (.numeral flaw) := by
    rw [recordOf, hflaw]
    rfl
  simp only [record, hrefused]

/-- A listing with an overlong limit is refused. -/
theorem recent_of_overlong (a : Archive) {t : Target} {text : String}
    (given : t.queryValue? "limit" = some text) (h : Overlong text) :
    recent a t = failure 500 "Failed to retrieve recent analyses" := by
  obtain ⟨flaw, hflaw⟩ := limitOf_of_overlong given h
  have hrefused : recentOf a t = .error (.numeral flaw) := by
    rw [recentOf, hflaw]
    rfl
  simp only [recent, hrefused]

/-- An overlong segment fails its route. -/
theorem respond_overlong_segment (a : Archive) {segment : String} (whole : '/' ∉ segment.toList)
    (h : Overlong segment) (query : List (String × String)) (content : Option Content) :
    (respond a ⟨"GET", ⟨Route.recordBase ++ segment, query⟩, content⟩).1 =
      failure 500 "Failed to retrieve analysis" := by
  rw [respond_segment a h.ne_empty whole]
  exact record_of_overlong a h

/-- An overlong limit fails its route. -/
theorem respond_overlong_limit (a : Archive) {query : List (String × String)} {text : String}
    (given : text ∈ Target.queryValue? ⟨"/api/analyses/recent", query⟩ "limit") (h : Overlong text)
    (content : Option Content) :
    (respond a ⟨"GET", ⟨"/api/analyses/recent", query⟩, content⟩).1 =
      failure 500 "Failed to retrieve recent analyses" := by
  rw [respond_recent]
  exact recent_of_overlong a given h

/-! ## 3. The store in memory -/

theorem after_singleton (a : Archive) (request : Request) :
    after a [request] = (respond a request).2 := rfl

/-- The records of an archive are in memory, each at the place of its number. -/
def InPlace (a : Archive) (records : List Record) : Prop :=
  a.store = .memory ⟨records⟩ ∧
    ∀ (k : Nat) r, records[k]? = some r → r.id = (k + 1 : Nat)

/-- A record that is made is put at the place of its number. -/
theorem InPlace.create {a : Archive} {records : List Record} (h : InPlace a records)
    (code language : String) (report : Report) :
    ∃ r, InPlace (a.create code language report).2 (records ++ [r]) := by
  obtain ⟨hstore, hplaces⟩ := h
  refine ⟨Record.ofReport (records.length + 1 : Nat) code language report a.clock.now, ?_, ?_⟩
  · simp only [Archive.create, hstore]
    rfl
  · intro k r hk
    rw [List.getElem?_append] at hk
    split at hk
    · exact hplaces k r hk
    · -- only the new record is behind the others
      next hlt =>
        rw [List.getElem?_singleton] at hk
        split at hk
        · next hzero =>
          obtain rfl := Option.some.inj hk
          have hplace : k = records.length := by omega
          rw [hplace]
          rfl
        · exact absurd hk (by simp)

/-- No request puts a record at another place. -/
theorem InPlace.respond {a : Archive} {records : List Record} (h : InPlace a records)
    (request : Request) : ∃ records', InPlace (Service.respond a request).2 records' := by
  rcases respond_cases a request with hsame | ⟨hmethod, hroute⟩
  · rw [hsame]
    exact ⟨records, h⟩
  · rw [respond_submit a hmethod hroute]
    rcases submit_archive a request.content with hsame | ⟨_, submission, -, -, hcreate⟩
    · rw [hsame]
      exact ⟨records, h⟩
    · rw [hcreate]
      obtain ⟨r, hr⟩ := h.create submission.code submission.language.name submission.report
      exact ⟨_, hr⟩

/-- **A submission without a fault is taken by the store in memory**, and goes to the end of its
records. -/
theorem respond_memory (m : Memory) (clock : Clock) {request : Request}
    (hmethod : request.method = Route.submit.method)
    (hroute : Route.ofPath? request.target.path = some .submit) {value : Json}
    {submission : Submission} (hvalue : contentValue request.content = .ok value)
    (hsubmission : checkSubmission value = .ok submission) :
    let made := m.create submission.code submission.language.name submission.report clock.now
    respond ⟨.memory m, clock⟩ request =
      (submitted submission.report (.ok made.1), ⟨.memory made.2, clock.tick⟩) := by
  intro made
  rw [respond_submit _ hmethod hroute, submit_eq _ hvalue hsubmission]
  rfl

/-- **The store in memory keeps its records under the numbers of their places**, whatever is
requested. -/
theorem after_memory (clock : Clock) (requests : List Request) :
    ∃ records, InPlace (after ⟨.memory .empty, clock⟩ requests) records :=
  after_induction (P := fun a => ∃ records, InPlace a records)
    (fun _ request h => h.elim fun _ hplace => hplace.respond request)
    ⟨[], rfl, fun k r hk => absurd hk (by simp)⟩ requests

/-- What the question after the record of a segment is to be answered with. -/
inductive Found (records : List Record) (segment : String) : Response → Prop
  | record {r : Record} (leads : Leads segment r.id) (mem : r ∈ records) :
      Found records segment (.ofJson 200 r.toJson)
  | unknown {n : Int} (leads : Leads segment n) (none : ∀ r ∈ records, r.id ≠ n) :
      Found records segment (failure 404 "Analysis not found")
  | unread (none : ∀ n, ¬ Leads segment n) :
      Found records segment (failure 404 "Analysis not found")

/-- A segment that is not overlong is answered with its record, or with status 404. -/
theorem InPlace.found {a : Archive} {records : List Record} (h : InPlace a records)
    {segment : String} (fits : ¬ Overlong segment) : Found records segment (record a segment) := by
  rcases recordOf_cases a fits with ⟨n, hleads, hrecord⟩ | ⟨hnone, hrecord⟩
  · have hget : a.get n = .ok (records.find? (·.id == n)) := by
      simp only [Archive.get, h.1, Memory.get?]
    rw [hget] at hrecord
    cases hfind : records.find? (·.id == n) with
    | none =>
      rw [hfind] at hrecord
      simp only [record, hrecord]
      exact .unknown hleads fun r hr => by simpa using List.find?_eq_none.mp hfind r hr
    | some r =>
      rw [hfind] at hrecord
      have hid := List.find?_some hfind
      obtain rfl : r.id = n := eq_of_beq hid
      simp only [record, hrecord]
      exact .record hleads (List.mem_of_find?_eq_some hfind)
  · simp only [record, hrecord]
    exact .unread hnone

/-- A limit that is not overlong is answered with the newest records, as many as it asks for. -/
theorem InPlace.listed {a : Archive} {records : List Record} (h : InPlace a records) {t : Target}
    (fits : ∀ text ∈ t.queryValue? "limit", ¬ Overlong text) :
    ∃ n shown, Asks (t.queryValue? "limit") n ∧ Listing n records shown ∧
      recent a t = .ofJson 200 (.list (shown.map Record.toJson)) := by
  obtain ⟨n, hasks⟩ := exists_asks (t.queryValue? "limit")
  obtain ⟨store, clock⟩ := a
  obtain ⟨rfl, hplaces⟩ := h
  obtain ⟨shown, hshown, hlisting⟩ := (remembers_of_places clock hplaces).listed n
  refine ⟨n, shown, hasks, hlisting, ?_⟩
  have hrecent : recentOf ⟨.memory ⟨records⟩, clock⟩ t = .ok shown := by
    rw [recentOf, limitOf_of_asks hasks fits]
    exact hshown
  simp only [recent, hrecent]

/-- **What is read from the store in memory**, after any requests.  The record of the integer that a
segment begins with is answered, or status 404 where there is no such record or no integer; and the
newest records are listed, as many as the limit asks for.  The one exception is an overlong segment
or limit, which is answered with status 500; nothing changes in any case. -/
theorem memory_reads (clock : Clock) (requests : List Request) :
    let a := after ⟨.memory .empty, clock⟩ requests
    ∃ records, a.store = .memory ⟨records⟩ ∧
      (∀ (k : Nat) r, records[k]? = some r → r.id = (k + 1 : Nat)) ∧
      (∀ segment query content, segment ≠ "" → '/' ∉ segment.toList →
        let answered := respond a ⟨"GET", ⟨Route.recordBase ++ segment, query⟩, content⟩
        answered.2 = a ∧
          (¬ Overlong segment → Found records segment answered.1) ∧
          (Overlong segment → answered.1 = failure 500 "Failed to retrieve analysis")) ∧
      ∀ query content,
        let target : Target := ⟨"/api/analyses/recent", query⟩
        let answered := respond a ⟨"GET", target, content⟩
        answered.2 = a ∧
          ((∀ text ∈ target.queryValue? "limit", ¬ Overlong text) →
            ∃ n shown, Asks (target.queryValue? "limit") n ∧ Listing n records shown ∧
              answered.1 = .ofJson 200 (.list (shown.map Record.toJson))) ∧
          ∀ text ∈ target.queryValue? "limit", Overlong text →
            answered.1 = failure 500 "Failed to retrieve recent analyses" := by
  intro a
  obtain ⟨records, hplace⟩ := after_memory clock requests
  have hplace : InPlace a records := hplace
  refine ⟨records, hplace.1, hplace.2, ?_, ?_⟩
  · intro segment query content hne hslash answered
    have hanswered : answered = (record a segment, a) := respond_segment a hne hslash query content
    refine ⟨?_, ?_, fun hover => respond_overlong_segment a hslash hover query content⟩
    · rw [hanswered]
    · rw [hanswered]
      exact fun fits => hplace.found fits
  · intro query content target answered
    have hanswered : answered = (recent a target, a) := respond_recent a query content
    refine ⟨?_, ?_, fun text htext hover => respond_overlong_limit a htext hover content⟩
    · rw [hanswered]
    · rw [hanswered]
      exact fun fits => hplace.listed fits

/-! ## 4. Texts of too many digits -/

/-- A text of so many digits. -/
def ones (count : Nat) : String :=
  String.ofList (List.replicate count '1')

theorem toList_ones (count : Nat) : (ones count).toList = List.replicate count '1' :=
  String.toList_ofList

theorem overlong_ones {count : Nat} (h : Numeral.digitLimit < count) : Overlong (ones count) := by
  have hdigits : (List.replicate count '1').map Text.digitValue? =
      (List.replicate count 1).map some := by
    rw [List.map_replicate, List.map_replicate]
    rfl
  have hne : List.replicate count 1 ≠ [] := by
    rw [Ne, List.replicate_eq_nil_iff]
    omega
  have hbegins : Numeral.Begins ([] ++ ([] ++ (List.replicate count '1' ++ []))) false
      (List.replicate count 1) := .of (by simp) .absent hdigits hne (by simp)
  rw [List.nil_append, List.nil_append, List.append_nil, ← toList_ones] at hbegins
  exact ⟨false, List.replicate count 1, hbegins, by rwa [List.length_replicate]⟩

theorem slash_notMem_ones (count : Nat) : '/' ∉ (ones count).toList := by
  rw [toList_ones]
  intro hmem
  exact absurd (List.eq_of_mem_replicate hmem) (by decide)

/-- One source is submitted.  Its record is found by a segment with a blank and a sign in front of
its number and a letter behind it; a segment of too many digits fails. -/
theorem memory_reads_of_one :
    let submission : Submission := ⟨"x = 1", .python⟩
    let post : Request :=
      ⟨"POST", ⟨"/api/analyze", []⟩, some ⟨Json.render submission.toJson, "application/json"⟩⟩
    let a := after ⟨.memory .empty, ⟨fun _ => 0, 0⟩⟩ [post]
    let get (segment : String) : Request := ⟨"GET", ⟨Route.recordBase ++ segment, []⟩, none⟩
    let made := Record.ofReport 1 "x = 1" "python" submission.report (.ofInstant 0)
    Found [made] " +1x" (respond a (get " +1x")).1 ∧
      (respond a (get (ones 4301))).1 = failure 500 "Failed to retrieve analysis" := by
  intro submission post a get made
  have hchecked := Submission.checkSubmission_toJson (s := submission) (by decide)
  have hstore : a.store = .memory ⟨[made]⟩ := by
    have hpost := respond_memory .empty ⟨fun _ => 0, 0⟩ (show post.method = _ from rfl)
      (by decide) submission.contentValue_toJson hchecked
    have ha : a = (respond ⟨.memory .empty, ⟨fun _ => 0, 0⟩⟩ post).2 := after_singleton _ _
    rw [ha, hpost]
    rfl
  have hparts : Numeral.Begins ([' '] ++ (['+'] ++ (['1'] ++ ['x']))) false [1] := by
    refine .of (List.forall_mem_singleton.mpr (by decide)) .plus (by decide) (by decide) ?_
    intro c hc
    obtain rfl : 'x' = c := Option.some.inj hc
    decide
  have hbegins : Numeral.Begins " +1x".toList false [1] := hparts
  obtain ⟨records, hrecords, -, hsegment, -⟩ := memory_reads ⟨fun _ => 0, 0⟩ [post]
  obtain rfl : records = [made] :=
    congrArg Memory.records (Store.memory.inj (hrecords.symm.trans hstore))
  obtain ⟨-, hfound, -⟩ := hsegment " +1x" [] none (by decide) (by decide)
  have hover : Overlong (ones 4301) := overlong_ones (by decide)
  obtain ⟨-, -, hfails⟩ := hsegment (ones 4301) [] none hover.ne_empty (slash_notMem_ones _)
  exact ⟨hfound (hbegins.not_overlong (by decide)), hfails hover⟩

/-- **A text of too many digits fails both routes**, although it is read from an empty store in
memory: the record of the segment is not found to be missing, and nothing is listed. -/
theorem overlong_fails :
    let a : Archive := ⟨.memory .empty, ⟨fun _ => 0, 0⟩⟩
    (respond a ⟨"GET", ⟨Route.recordBase ++ ones 4301, []⟩, none⟩).1 =
        failure 500 "Failed to retrieve analysis" ∧
      (respond a ⟨"GET", ⟨"/api/analyses/recent", [("limit", ones 4301)]⟩, none⟩).1 =
        failure 500 "Failed to retrieve recent analyses" := by
  intro a
  have hgiven : Target.queryValue? ⟨"/api/analyses/recent", [("limit", ones 4301)]⟩ "limit" =
      some (ones 4301) := by
    rw [Target.queryValue?, List.reverse_singleton, List.find?_singleton]
    rfl
  have hover : Overlong (ones 4301) := overlong_ones (by decide)
  exact ⟨respond_overlong_segment a (slash_notMem_ones _) hover [] none,
    respond_overlong_limit a hgiven hover none⟩

end Critique.Service
