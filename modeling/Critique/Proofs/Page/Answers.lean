/-
# What the page is answered

The page asks the service through its client, so an answer has gone through two texts: the content
of a submission and the reply to it are written as JSON and read back.  Where the service is there
and answers for itself (`Healthy`), nothing gets lost on the way: a source is analysed as it was
entered, and what comes back is the report, or the record, as the service has it.

Only the question after an analysis changes the archive; it is the only one that is a submission.
This is so whether the service answers for itself or not.

* `reply_other`: the other questions leave the archive as it is;
* `read_analyze`: an analysis is answered with its report, under the number of its record;
* `read_analysis`: a record that is kept is answered.
-/
import Critique.Proofs.Page.Steps
import Critique.Proofs.Service.RoundTrip

namespace Critique.Page

open Drawing Service

/-- The service is there, and answers for itself. -/
structure Visit.Healthy (v : Visit) : Prop where
  up : v.outage = none
  unscripted : ∀ q, v.scripted q = none

variable {v : Visit} {a : Archive}

/-- Where the service is healthy, a question is a request. -/
theorem reply_healthy (h : v.Healthy) (a : Archive) (q : Question) :
    reply v a q = (.ok (.ofResponse (respond a q.request).1), (respond a q.request).2) := by
  rw [reply, h.up]
  simp only [h.unscripted]

/-- **A question that is no submission leaves the archive as it is**, whoever replies to it. -/
theorem reply_other (v : Visit) (a : Archive) {q : Question} (hq : q.method = "GET") :
    (reply v a q).2 = a := by
  unfold reply
  split
  · rfl
  · split
    · rfl
    · rcases respond_cases a q.request with hsame | ⟨hmethod, -⟩
      · exact hsame
      · have hrequest : q.request.method = q.method := by cases q <;> rfl
        rw [hrequest, hq] at hmethod
        exact absurd hmethod (by decide)

/-- An archive has been asked something, or nothing. -/
def Answered (a a' : Archive) : Prop :=
  a' = a ∨ ∃ request, a' = (respond a request).2

/-- A question is answered by the archive, or by somebody else. -/
theorem answered_reply (v : Visit) (a : Archive) (q : Question) : Answered a (reply v a q).2 := by
  unfold reply
  split
  · exact .inl rfl
  · split
    · exact .inl rfl
    · exact .inr ⟨_, rfl⟩

/-- A question that is no submission is calm. -/
theorem calm_ask (v : Visit) {q : Question} (hq : q.method = "GET") : Calm (ask v q) :=
  fun desk => ⟨⟨⟨rfl, reply_other v desk.archive hq, List.prefix_refl _⟩, rfl⟩, nofun⟩

/-- A reply of status 200 is read as the value that was answered. -/
theorem check_ofJson {value : Json} (h : Json.Readable Json.nestingLimit value) :
    (Reply.ofResponse (.ofJson 200 value)).check = .ok value := by
  have hread : (Reply.ofResponse (.ofJson 200 value)).json = .ok value := by
    show (Json.read (Json.render value)).mapError ClientError.unreadable = _
    rw [Json.read_render h]
    rfl
  have hsuccess : (Reply.ofResponse (.ofJson 200 value)).isSuccess = true :=
    show (((200 : Nat) : Int).fdiv 100 == 2) = true by decide
  rw [Reply.check, if_pos hsuccess, hread]

/-- A failure is read as its message, if it has one. -/
theorem check_failure {text : String} (h : text ≠ "") (status : Nat)
    (failed : (Reply.ofResponse (failure status text)).isSuccess = false) :
    (Reply.ofResponse (failure status text)).check = .error (.answered text status) := by
  have hreadable : Json.Readable Json.nestingLimit (.object [("message", .text text)]) := by
    show Json.Readable (984 + 1) _
    refine Json.Readable.object (by simp) (by simp) ?_
    simp only [List.forall_mem_cons, List.not_mem_nil, false_imp_iff, implies_true, and_true]
    exact .text text
  have hread : Json.read (Reply.ofResponse (failure status text)).text =
      .ok (.object [("message", .text text)]) :=
    Json.read_render hreadable
  have hmessage : (Reply.ofResponse (failure status text)).message = .ok text := by
    rw [Reply.message, hread]
    simp [Json.getD, Json.get, Entries.find?, Except.map, Json.truthy, Json.display, h]
  rw [Reply.check, failed, hmessage]
  rfl

/-- The content that a source is sent as. -/
def sent (code : String) (language : Language) : Option Http.Content :=
  some ⟨Json.render (Submission.toJson ⟨code, language⟩), "application/json"⟩

/-- The question after an analysis is a submission of the source. -/
theorem respond_analyze (a : Archive) (code : String) (language : Language) :
    respond a (Question.analyze (.text code) (.text language.name)).request =
      submit a (sent code language) :=
  respond_submit a rfl (show Route.ofPath? "/api/analyze" = some .submit by decide)

/-- What is submitted is a source and a language, as they were entered. -/
theorem submit_sent (a : Archive) {code : String} (hne : code ≠ "") (language : Language) :
    submit a (sent code language) =
      (submitted (Report.analyze code language.name)
        (a.create code language.name (Report.analyze code language.name)).1,
      (a.create code language.name (Report.analyze code language.name)).2) := by
  have hchecked := Submission.checkSubmission_toJson (s := ⟨code, language⟩) hne
  rw [sent, submit_eq a (Submission.contentValue_toJson ⟨code, language⟩) hchecked]
  rfl

/-- **An analysis is answered with its report**, under the number of its record. -/
theorem read_analyze (h : v.Healthy) {count : Nat} (ready : Ready a (count + 1)) {code : String}
    (hne : code ≠ "") (short : Numeral.Short (Text.splitLines code.toList).length)
    (language : Language) :
    ∃ r answer a', a.Made code language.name (Report.analyze code language.name) r a' ∧
      reply v a (.analyze (.text code) (.text language.name)) = (answer, a') ∧
      (Question.analyze (.text code) (.text language.name)).read answer =
        .ok (.object (("id", .int r.id) :: (Report.analyze code language.name).members)) := by
  obtain ⟨r, htaken⟩ : ∃ r, Taken a (sent code language) ⟨code, language⟩ r :=
    submit_taken ready.working ready.room (Submission.contentValue_toJson ⟨code, language⟩)
    (Submission.checkSubmission_toJson (s := ⟨code, language⟩) hne)
  refine ⟨r, .ok (.ofResponse (submit a (sent code language)).1), _, htaken.made, ?_, ?_⟩
  · rw [reply_healthy h, respond_analyze]
  · rw [htaken.answer]
    exact check_ofJson (Report.readable_members short language.name
      (htaken.made.short _ ready.room) 982)

/-- **A record that is kept is answered.** -/
theorem read_analysis (h : v.Healthy) {r : Record} (working : a.store.Working)
    (keeps : a.store.Keeps r) (writable : r.Writable) :
    (Question.analysis (.int r.id)).read (reply v a (.analysis (.int r.id))).1 = .ok r.toJson := by
  have hrespond : respond a (Question.analysis (.int r.id)).request = (.ofJson 200 r.toJson, a) :=
    respond_record working keeps writable rfl rfl
  rw [reply_healthy h, hrespond]
  exact check_ofJson (Record.readable_toJson writable 982)

end Critique.Page
