/-
# Runs of the service

A run is a list of requests, and what can be seen of it are the answers.  Between two requests the
archive is the whole state of the service, so it is enough to know what one request does to it.

It does one of two things, as long as no command of the server is made to fail.  A submission that
is answered with status 200 by its route (`Accepted`) makes a record; every other request leaves the
archive as it is, readings of the clock and counter included (`respond_of_not_accepted`).  The second
half is what has to be looked at closely: faults of a submission are found before the archive is
touched, and of the two commands that make a record the first one changes nothing where it fails,
while the second one fails only where it is made to.

* `answers_append` and `getElem?_answers`: a run is answered piece by piece, and request by request;
* `submit_cases`: a submission makes a record, or it is refused and nothing has changed;
* `respond_working_cases`: all that a request can do;
* `respond_of_not_accepted`: what is not accepted changes nothing;
* `after_induction`: what every request preserves, a run preserves.
-/
import Critique.Proofs.Store.Keeping
import Critique.Service

namespace Critique

open Http

/-- The report on a submission. -/
def Submission.report (s : Submission) : Report :=
  Report.analyze s.code s.language.name

namespace Service

/-! ## 1. Runs -/

/-- The answers to requests, one after the other. -/
def answers (a : Archive) : List Request → List Response
  | [] => []
  | request :: rest => (respond a request).1 :: answers (respond a request).2 rest

/-- The archive after requests. -/
def after (a : Archive) (requests : List Request) : Archive :=
  requests.foldl (fun a request => (respond a request).2) a

/-- A run is answered piece by piece. -/
theorem answers_append (a : Archive) (before behind : List Request) :
    answers a (before ++ behind) = answers a before ++ answers (after a before) behind := by
  induction before generalizing a with
  | nil => rfl
  | cons request before ih =>
    rw [List.cons_append, answers, answers, List.cons_append, ih]
    rfl

/-- **A run is answered request by request**, each from where the ones before it have led to. -/
theorem getElem?_answers (a : Archive) (requests : List Request) (k : Nat) :
    (answers a requests)[k]? =
      requests[k]?.map fun request => (respond (after a (requests.take k)) request).1 := by
  induction requests generalizing a k with
  | nil => rfl
  | cons request requests ih =>
    cases k with
    | zero => rfl
    | succ k => exact ih (respond a request).2 k

theorem after_append (a : Archive) (before behind : List Request) :
    after a (before ++ behind) = after (after a before) behind :=
  List.foldl_append

/-- Later in a run, the archive is where the requests in between have led to. -/
theorem after_take_of_lt {a : Archive} {requests : List Request} {request : Request} {i j : Nat}
    (later : i < j) (h : requests[i]? = some request) :
    ∃ between, after a (requests.take j) =
      after (respond (after a (requests.take i)) request).2 between := by
  refine ⟨(requests.take j).drop (i + 1), ?_⟩
  have htake : requests.take j =
      requests.take i ++ [request] ++ (requests.take j).drop (i + 1) := by
    have hfirst : (requests.take j).take (i + 1) = requests.take i ++ [request] := by
      rw [List.take_take, Nat.min_eq_left later, List.take_add_one, h]
      rfl
    rw [← hfirst, List.take_append_drop]
  conv_lhs => rw [htake, after_append, after_append]
  rfl

/-- **What every request preserves, a run preserves.** -/
theorem after_induction {P : Archive → Prop} (step : ∀ a request, P a → P (respond a request).2)
    {a : Archive} (start : P a) (requests : List Request) : P (after a requests) := by
  induction requests generalizing a with
  | nil => exact start
  | cons request requests ih => exact ih (step a request start)

/-! ## 2. What one request does -/

/-- A submission that is answered with status 200 by its route. -/
def Accepted (request : Request) (response : Response) : Prop :=
  request.method = Route.submit.method ∧
    Route.ofPath? request.target.path = some .submit ∧ response.status = 200

/-- What there is to say of a submission that has just been accepted. -/
structure Taken (a : Archive) (content : Option Content) (submission : Submission) (r : Record) :
    Prop where
  read : ∃ value, contentValue content = .ok value ∧ checkSubmission value = .ok submission
  answer : (submit a content).1 = submitted submission.report (.ok r)
  made : a.Made submission.code submission.language.name submission.report r (submit a content).2

/-- A submission without a fault is analysed, and what is made of it is answered. -/
theorem submit_eq (a : Archive) {room : Nat} {content : Option Content} {value : Json}
    {submission : Submission} (hvalue : contentValue content room = .ok value)
    (hsubmission : checkSubmission value = .ok submission) :
    submit a content room =
      (submitted submission.report
        (a.create submission.code submission.language.name submission.report).1,
      (a.create submission.code submission.language.name submission.report).2) := by
  simp only [submit, hvalue, hsubmission]
  rfl

/-- Whatever is submitted, at most the making of one record is attempted, which is the one of a
submission without a fault. -/
theorem submit_archive (a : Archive) (content : Option Content) :
    (submit a content).2 = a ∨
      ∃ value submission, contentValue content = .ok value ∧
        checkSubmission value = .ok submission ∧ (submit a content).2 =
          (a.create submission.code submission.language.name submission.report).2 := by
  cases hvalue : contentValue content with
  | error error =>
    refine .inl ?_
    cases error <;> simp only [submit, hvalue]
  | ok value =>
    cases hsubmission : checkSubmission value with
    | error faults => exact .inl (by simp only [submit, hvalue, hsubmission])
    | ok submission =>
      refine .inr ⟨value, submission, rfl, hsubmission, ?_⟩
      rw [submit_eq a hvalue hsubmission]

/-- A submission without a fault is taken if a record can be made of it. -/
theorem taken_of_create {a a' : Archive} {content : Option Content} {value : Json}
    {submission : Submission} {r : Record} (hvalue : contentValue content = .ok value)
    (hsubmission : checkSubmission value = .ok submission)
    (hcreate : a.create submission.code submission.language.name submission.report = (.ok r, a'))
    (hmade : a.Made submission.code submission.language.name submission.report r a') :
    Taken a content submission r := by
  have hsubmit := submit_eq a hvalue hsubmission
  rw [hcreate] at hsubmit
  refine ⟨⟨value, hvalue, hsubmission⟩, ?_, ?_⟩
  · rw [hsubmit]
  · rw [hsubmit]
    exact hmade

/-- **A submission makes a record, or it is refused and nothing has changed.** -/
theorem submit_cases {a : Archive} (h : a.store.Working) (content : Option Content) :
    ((submit a content).1.status ≠ 200 ∧ (submit a content).2 = a) ∨
      ∃ submission r, Taken a content submission r := by
  cases hvalue : contentValue content with
  | error error =>
    refine .inl ?_
    cases error <;> simp [submit, hvalue, failure, refusal, Response.saying, Response.ofJson]
  | ok value =>
    cases hsubmission : checkSubmission value with
    | error faults =>
      refine .inl ?_
      simp [submit, hvalue, hsubmission, failure, Response.saying, Response.ofJson]
    | ok submission =>
      rcases Archive.create_working h submission.code submission.language.name
        submission.report with ⟨error, hcreate⟩ | ⟨r, a', hcreate, hmade⟩
      · have hsubmit := submit_eq a hvalue hsubmission
        rw [hcreate] at hsubmit
        exact .inl (by
          simp [hsubmit, submitted, failure, Response.saying, Response.ofJson])
      · exact .inr ⟨submission, r, taken_of_create hvalue hsubmission hcreate hmade⟩

/-- **Where there is room, a submission without a fault is taken.** -/
theorem submit_taken {a : Archive} (h : a.store.Working) {count : Nat}
    (room : a.store.HasRoom (count + 1)) {content : Option Content} {value : Json}
    {submission : Submission} (hvalue : contentValue content = .ok value)
    (hsubmission : checkSubmission value = .ok submission) :
    ∃ r, Taken a content submission r := by
  obtain ⟨r, a', hcreate, hmade⟩ := Archive.create_of_hasRoom h room submission.code
    submission.language.name submission.report
  exact ⟨r, taken_of_create hvalue hsubmission hcreate hmade⟩

/-- A submission that is sent to its route is taken from there. -/
theorem respond_submit (a : Archive) {request : Request}
    (hmethod : request.method = Route.submit.method)
    (hroute : Route.ofPath? request.target.path = some .submit)
    (room : Nat := Json.nestingLimit) :
    respond a request room = submit a request.content room := by
  have hhead : request.method ≠ "HEAD" := by
    rw [hmethod]
    decide
  rw [respond, route, hroute]
  simp only [hmethod, if_true, answer]
  rw [if_neg (hmethod ▸ hhead)]

/-- A request is a submission that is sent to its route, or it leaves the archive as it is. -/
theorem respond_cases (a : Archive) (request : Request) :
    (respond a request).2 = a ∨
      request.method = Route.submit.method ∧ Route.ofPath? request.target.path = some .submit := by
  by_cases hroute : Route.ofPath? request.target.path = some .submit
  · by_cases hmethod : request.method = Route.submit.method
    · exact .inr ⟨hmethod, hroute⟩
    · refine .inl ?_
      rw [respond, route, hroute]
      simp only [hmethod, if_false]
  · exact .inl (respond_archive a request hroute)

/-- **All that a request can do**: it is a submission that makes a record, or nothing changes. -/
theorem respond_working_cases {a : Archive} (h : a.store.Working) (request : Request) :
    (respond a request).2 = a ∨
      Accepted request (respond a request).1 ∧ respond a request = submit a request.content ∧
        ∃ submission r, Taken a request.content submission r := by
  rcases respond_cases a request with hsame | ⟨hmethod, hroute⟩
  · exact .inl hsame
  · have hsubmit := respond_submit a hmethod hroute
    rcases submit_cases h request.content with ⟨-, hsame⟩ | ⟨submission, r, htaken⟩
    · exact .inl (hsubmit ▸ hsame)
    · refine .inr ⟨⟨hmethod, hroute, ?_⟩, hsubmit, submission, r, htaken⟩
      rw [hsubmit, htaken.answer]
      rfl

/-- **What is not accepted changes nothing.** -/
theorem respond_of_not_accepted {a : Archive} (h : a.store.Working) {request : Request}
    (hnot : ¬ Accepted request (respond a request).1) : (respond a request).2 = a := by
  rcases respond_working_cases h request with hsame | ⟨haccepted, -⟩
  · exact hsame
  · exact absurd haccepted hnot

/-- **No request makes a command fail.** -/
theorem respond_working {a : Archive} (h : a.store.Working) (request : Request) :
    (respond a request).2.store.Working := by
  rcases respond_working_cases h request with hsame | ⟨-, hsubmit, submission, r, htaken⟩
  · rwa [hsame]
  · rw [hsubmit]
    exact htaken.made.working

end Service

end Critique
