/-
# What a listing shows

The latest records are listed from the last one on, and the limit of the query says how many.  Which
backend keeps them cannot be seen: the store in memory sorts its records by time, the store on a
server takes them from its index by number, and while the clock does not run backwards both orders
are the order in which the records were made, turned around.

So the archive of either backend is held against one list of records.  `Filed` does this with
`Agrees`, which ties the store in memory to a server that holds the same records: of the two, the
archive has one, and the other stands beside it.  A submission that is accepted puts one more record
at the end of the list (`Filed.accepted`), every other request leaves it alone, and a run of `n`
accepted submissions leads to `n` records (`Filed.after`).

* `accepted`: the number of submissions of a run that are answered with status 200;
* `Filed.recent` and `Filed.get`: what an archive tells of the list;
* `recent_listed`: what a listing shows after a run.
-/
import Critique.Proofs.Service.Reading

namespace Critique

open Http
open Numeral (Overlong)

/-! ## 1. Records on file -/

/-- The records of an archive, in the order in which they were made, and the number of records for
which there is room. -/
inductive Filed : Archive → List Record → Nat → Prop
  | memory {records : List Record} {s : Server} {clock : Clock} {count : Nat}
      (agrees : Agrees records s clock count) : Filed ⟨.memory ⟨records⟩, clock⟩ records count
  | remote {records : List Record} {s : Server} {clock : Clock} {count : Nat}
      (agrees : Agrees records s clock count) : Filed ⟨.remote s, clock⟩ records count

namespace Filed

variable {a : Archive} {records : List Record} {count : Nat}

theorem agrees (h : Filed a records count) : ∃ s, Agrees records s a.clock count := by
  cases h with
  | memory agrees => exact ⟨_, agrees⟩
  | remote agrees => exact ⟨_, agrees⟩

theorem working (h : Filed a records count) : a.store.Working := by
  cases h with
  | memory => trivial
  | remote agrees => exact agrees.working

/-- **A listing is the list of records from its end**, cut by the limit. -/
theorem recent (h : Filed a records count) (limit : Int) :
    a.recent limit = .ok (slice limit records.reverse) := by
  cases h with
  | memory agrees =>
    simp only [Archive.recent, Memory.recent, mergeSort_later agrees.ordered agrees.serves.ascending]
  | remote agrees => exact agrees.serves.recent limit

/-- **A record is found under the number of its place.** -/
theorem get (h : Filed a records count) {k : Nat} {r : Record} (hk : records[k]? = some r) :
    r.id = k + 1 ∧ a.get r.id = .ok (some r) := by
  obtain ⟨s, hagrees⟩ := h.agrees
  have hfind : Remote.Ledger.find? (records.map some) ((k : Int) + 1) = some r := by
    rw [Remote.Ledger.find?_succ, List.getElem?_map, hk]
    rfl
  have hid : r.id = (k : Int) + 1 := hagrees.holds.numbered _ _ hfind
  refine ⟨hid, ?_⟩
  have hmemory : Memory.get? ⟨records⟩ r.id = some r := by
    rw [find?_map_some hagrees.holds.numbered, hid, hfind]
  have hshort : Numeral.Short r.id :=
    (hagrees.holds.writable r (Remote.Ledger.mem_kept.mpr ⟨_, hfind⟩)).id
  cases h with
  | memory => exact congrArg Except.ok hmemory
  | remote agrees => exact (agrees.serves.get hshort).trans (congrArg Except.ok hmemory)

/-- A record that is made goes to the end. -/
theorem create (h : Filed a records (count + 1)) (code language : String) {report : Report}
    (hreport : report.Writable) :
    Filed (a.create code language report).2
      (records ++ [Record.ofReport (records.length + 1 : Nat) code language report a.clock.now])
      count := by
  cases h with
  | memory agrees =>
    obtain ⟨s', -, hagrees⟩ := agrees.create code language hreport
    exact .memory hagrees
  | remote agrees =>
    obtain ⟨s', hcreate, hagrees⟩ := agrees.create code language hreport
    simp only [Archive.create, hcreate]
    exact .remote hagrees

end Filed

/-- Nothing is on file in a fresh store. -/
theorem filed_fresh {a : Archive} (fresh : a.store.IsFresh) {count : Nat} (few : count < 2 ^ 63)
    (years : a.clock.InYears count) (steady : a.clock.Steady count) : Filed a [] count := by
  obtain ⟨store, clock⟩ := a
  have hagrees : Agrees [] .empty clock count :=
    { holds := Remote.holds_empty
      working := rfl
      room := by simpa using few
      years := years
      steady := steady
      ordered := List.Pairwise.nil
      past := fun _ r hr => absurd hr List.not_mem_nil }
  obtain rfl | rfl := fresh
  · exact .memory hagrees
  · exact .remote hagrees

namespace Service

/-! ## 2. Runs -/

instance (request : Request) (response : Response) : Decidable (Accepted request response) :=
  inferInstanceAs (Decidable (_ ∧ _ ∧ _))

/-- The number of submissions of a run that are answered with status 200. -/
def accepted (a : Archive) : List Request → Nat
  | [] => 0
  | request :: rest =>
    (if Accepted request (respond a request).1 then 1 else 0) + accepted (respond a request).2 rest

/-- What a request submits has a number of lines that can be written. -/
def Sized (request : Request) : Prop :=
  ∀ value submission, contentValue request.content = .ok value →
    checkSubmission value = .ok submission →
    Numeral.Short (Text.splitLines submission.code.toList).length

end Service

namespace Filed

open Service

variable {a : Archive} {records : List Record} {count : Nat}

/-- **A submission that is accepted puts one more record on file.** -/
theorem accepted (h : Filed a records (count + 1)) {request : Request} (sized : Sized request)
    (haccepted : Accepted request (respond a request).1) :
    ∃ r, Filed (respond a request).2 (records ++ [r]) count := by
  obtain ⟨hmethod, hroute, hstatus⟩ := haccepted
  have hsubmit := respond_submit a hmethod hroute
  rw [hsubmit] at hstatus ⊢
  rcases submit_cases h.working request.content with ⟨hrefused, -⟩ | ⟨submission, r, htaken⟩
  · exact absurd hstatus hrefused
  · obtain ⟨value, hvalue, hchecked⟩ := htaken.read
    have hwritable : submission.report.Writable :=
      Report.writable_analyze (sized value submission hvalue hchecked) _
    rw [submit_eq a hvalue hchecked]
    exact ⟨_, h.create _ _ hwritable⟩

/-- **A run puts as many records on file as submissions are accepted.** -/
theorem after {requests : List Request} (h : Filed a records (Service.accepted a requests))
    (sized : ∀ request ∈ requests, Sized request) :
    ∃ made, Filed (after a requests) (records ++ made) 0 ∧
      made.length = Service.accepted a requests := by
  induction requests generalizing a records with
  | nil =>
    refine ⟨[], ?_, rfl⟩
    rwa [List.append_nil]
  | cons request requests ih =>
    rw [List.forall_mem_cons] at sized
    by_cases haccepted : Accepted request (respond a request).1
    · rw [Service.accepted, if_pos haccepted, Nat.add_comm] at h ⊢
      obtain ⟨r, hr⟩ := h.accepted sized.1 haccepted
      obtain ⟨made, hmade, hlength⟩ := ih hr sized.2
      refine ⟨r :: made, ?_, by rw [List.length_cons, hlength]⟩
      rwa [List.append_assoc] at hmade
    · have hsame := respond_of_not_accepted h.working haccepted
      rw [Service.accepted, if_neg haccepted, Nat.zero_add] at h ⊢
      have hnext : Filed (respond a request).2 records
          (Service.accepted (respond a request).2 requests) := by
        rw [hsame] at h ⊢
        exact h
      exact ih hnext sized.2

end Filed

namespace Service

/-! ## 3. Listings -/

/-- **What a listing shows** after a run over a fresh store of either backend in which `n`
submissions were accepted: the records of the numbers `n`, `n - 1` and so on, as they are kept; as
many of them as the limit asks for, or all but as many where it asks for a negative number.  The
limit may be any text that is not overlong.  What was submitted had no more than 4300 digits in its
number of lines, as every text that fits anywhere. -/
theorem recent_listed {a : Archive} (fresh : a.store.IsFresh) {requests : List Request}
    (few : accepted a requests < 2 ^ 63) (years : a.clock.InYears (accepted a requests))
    (steady : a.clock.Steady (accepted a requests)) (sized : ∀ request ∈ requests, Sized request)
    (query : List (String × String)) (content : Option Content)
    (fits : ∀ text ∈ Target.queryValue? ⟨"/api/analyses/recent", query⟩ "limit", ¬ Overlong text) :
    let n := accepted a requests
    let reached := after a requests
    ∃ (limit : Int) (shown : List Record),
      respond reached ⟨"GET", ⟨"/api/analyses/recent", query⟩, content⟩ =
        (.ofJson 200 (.list (shown.map Record.toJson)), reached) ∧
      Asks (Target.queryValue? ⟨"/api/analyses/recent", query⟩ "limit") limit ∧
      shown.length = (if 0 < limit then min limit.toNat n else n - limit.natAbs) ∧
      ∀ k < shown.length, ∃ r, shown[k]? = some r ∧ r.id = ((n - k : Nat) : Int) ∧
        reached.get ((n - k : Nat) : Int) = .ok (some r) := by
  intro n reached
  obtain ⟨records, hfiled, hlength⟩ := (filed_fresh fresh few years steady).after sized
  rw [List.nil_append] at hfiled
  have hlength : records.length = n := hlength
  obtain ⟨limit, hasks⟩ := exists_asks (Target.queryValue? ⟨"/api/analyses/recent", query⟩ "limit")
  have hrecent : recentOf reached ⟨"/api/analyses/recent", query⟩ =
      .ok (slice limit records.reverse) := by
    rw [recentOf, limitOf_of_asks hasks fits]
    exact hfiled.recent limit
  have hnonzero : limit ≠ 0 := hasks.ne_zero
  have hshown := length_slice limit records.reverse
  rw [List.length_reverse, hlength] at hshown
  refine ⟨limit, slice limit records.reverse, ?_, hasks, ?_, ?_⟩
  · rw [respond_recent]
    simp only [Service.recent, hrecent]
  · rw [hshown]
    split <;> split <;> omega
  · intro k hk
    have hn : k < n := by
      rw [hshown] at hk
      split at hk <;> omega
    rw [slice_eq_take] at hk ⊢
    obtain ⟨r, hr⟩ : ∃ r, records[n - 1 - k]? = some r :=
      ⟨_, List.getElem?_eq_getElem (by omega)⟩
    obtain ⟨hid, hget⟩ := hfiled.get hr
    have hnumber : r.id = ((n - k : Nat) : Int) := by omega
    refine ⟨r, ?_, hnumber, hnumber ▸ hget⟩
    have htake : k < _ := lt_of_lt_of_le hk (List.length_take_le _ _)
    rw [List.getElem?_take_of_lt htake, List.getElem?_reverse (hlength ▸ hn), hlength]
    exact hr

/-- Two submissions to the store in memory, and a listing of all records but one. -/
theorem recent_listed_of_two :
    let submission : Submission := ⟨"x = 1", .python⟩
    let post : Request :=
      ⟨"POST", ⟨"/api/analyze", []⟩, some ⟨Json.render submission.toJson, "application/json"⟩⟩
    let a : Archive := ⟨.memory .empty, ⟨fun _ => 0, 0⟩⟩
    let reached := after a [post, post]
    ∃ r, respond reached ⟨"GET", ⟨"/api/analyses/recent", [("limit", "-1 left")]⟩, none⟩ =
        (.ofJson 200 (.list [r.toJson]), reached) ∧
      r.id = 2 ∧ reached.get 2 = .ok (some r) := by
  intro submission post a reached
  have hcarried : contentValue post.content = .ok submission.toJson :=
    submission.contentValue_toJson
  have hchecked := Submission.checkSubmission_toJson (s := submission) (by decide)
  have haccepted : ∀ m clock, Accepted post (respond ⟨.memory m, clock⟩ post).1 := by
    intro m clock
    refine ⟨rfl, by decide, ?_⟩
    rw [respond_memory m clock rfl (by decide) hcarried hchecked]
    rfl
  have htwo : accepted a [post, post] = 2 := by
    rw [accepted, if_pos (haccepted _ _), accepted,
      respond_memory _ _ rfl (by decide) hcarried hchecked, if_pos (haccepted _ _), accepted]
  have hsized : Sized post := by
    intro value s hvalue hs
    obtain rfl := Except.ok.inj (hcarried.symm.trans hvalue)
    obtain rfl := Except.ok.inj (hchecked.symm.trans hs)
    exact Numeral.short_of_lt (by decide)
  have hyears : ∀ count, a.clock.InYears count := by
    intro count k _
    show 1 ≤ (Time.Stamp.ofInstant 0).date.year ∧ (Time.Stamp.ofInstant 0).date.year ≤ 9999
    decide
  have hparts : Numeral.Begins ([] ++ (['-'] ++ (['1'] ++ " left".toList))) true [1] := by
    refine .of (by simp) .minus (by decide) (by decide) fun c hc => ?_
    obtain rfl : ' ' = c := Option.some.inj hc
    decide
  have hleft : Numeral.Begins "-1 left".toList true [1] := hparts
  have hvalue : Target.queryValue? ⟨"/api/analyses/recent", [("limit", "-1 left")]⟩ "limit" =
      some "-1 left" := rfl
  have hfits : ∀ text ∈ Target.queryValue?
      ⟨"/api/analyses/recent", [("limit", "-1 left")]⟩ "limit", ¬ Overlong text := by
    rintro text htext
    obtain rfl : "-1 left" = text := Option.some.inj htext
    exact hleft.not_overlong (by decide)
  obtain ⟨limit, shown, hanswer, hasks, hlength, hshown⟩ :=
    recent_listed (a := a) (.inl rfl) (by rw [htwo]; decide) (hyears _) (fun k _ => Int.le_refl 0)
      (by simpa using hsized) [("limit", "-1 left")] none hfits
  have hlimit : limit = -1 := by
    have hleads : Numeral.Leads "-1 left" (-1) := ⟨true, [1], hleft, rfl⟩
    rw [hvalue] at hasks
    cases hasks with
    | unread none => exact absurd hleads (none (-1))
    | zero leads => exact absurd (leads.unique hleads) (by decide)
    | number leads _ => exact leads.unique hleads
  rw [htwo, hlimit] at hlength
  rw [htwo] at hshown
  obtain ⟨r, hfirst, hid, hget⟩ := hshown 0 (by rw [hlength]; decide)
  obtain rfl : shown = [r] := by
    obtain ⟨only, rfl⟩ := List.length_eq_one_iff.mp hlength
    rw [Option.some.inj hfirst]
  exact ⟨r, hanswer, hid, hget⟩

end Service

end Critique
