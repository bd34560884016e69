/-
# Loading a record

A visitor who presses *Load* asks for the record of a number.  There are three answers to it: the
record, with status 200; that there is none, with status 404; and a failure, which is status 500 or
no answer at all.  A failure is one of three (`Fails`): the service cannot be reached, the server
refuses to fetch texts, or the number has more digits than a numeral may have.  What the store keeps
is never the cause of one, because whatever a site has been through, its store is in order
(`Site.Tended`).

The page shows the record for the first and a warning for the second.  For the third it shows an
error, and goes on as if it had been told that there is no record.  So the error is shown exactly
where the question has failed, but the warning stands below every error as well: it is shown
wherever there is no record to be shown, and does not say that the record is not there.

* `exists_loaded`: what is shown of the answer to whoever asks for a number;
* `Site.Tended.move` and `Site.Tended.follow`: sessions are tidy and the store is in order,
  whatever happens at a site;
* `loading_outcome`: what *Load* shows, and when;
* `loading_failure_warns`: a failure is shown as a record that is not there.
-/
import Critique.Proofs.Client
import Critique.Proofs.Page.Outcome
import Critique.Proofs.Service.Reading
import Critique.Proofs.Store.Stock

namespace Critique.Page

open Drawing Service

variable {v : Visit} {a : Archive} {id : Int} {name : String} {answer : Except String Reply}
  {es : List Element}

/-! ## 1. What is replied -/

/-- The service has answered with a status. -/
def Answers (answer : Except String Reply) (status : Int) : Prop :=
  ∃ r, answer = .ok r ∧ r.status = status

/-- How asking for a number fails: the service cannot be reached, the server refuses to fetch texts,
or the number has too many digits.  There is a reply to it, and a message that tells of it. -/
inductive Fails (v : Visit) (a : Archive) (id : Int) : Except String Reply → String → Prop
  | unreachable {message : String} (down : v.outage = some message) :
      Fails v a id (.error message) message
  | refused {message : String} (failing : a.store.failing? = some (.fetch, message)) :
      Fails v a id (.ok (.ofResponse (failure 500 "Failed to retrieve analysis")))
        "Failed to retrieve analysis"
  | overlong (long : ¬ Numeral.Short id) :
      Fails v a id (.ok (.ofResponse (failure 500 "Failed to retrieve analysis")))
        "Failed to retrieve analysis"

/-- What is replied to whoever asks for a number, and the elements that it is shown as. -/
inductive Loaded (v : Visit) (name : String) (a : Archive) (id : Int) :
    Except String Reply → List Element → Prop
  | record {r : Record} (kept : a.get id = .ok (some r)) (number : r.id = id) :
      Loaded v name a id (.ok (.ofResponse (.ofJson 200 r.toJson)))
        (.source (.text r.code) (.text r.language)
          :: shownResult v.filter r.toJson.renderIndented name r .zero)
  | missing (unknown : a.get id = .ok none) :
      Loaded v name a id (.ok (.ofResponse (failure 404 "Analysis not found")))
        [.warning "Analysis not found"]
  | failed {answer : Except String Reply} {message : String} (fails : Fails v a id answer message) :
      Loaded v name a id answer
        [.error ("Failed to load analysis: " ++ message), .warning "Analysis not found"]

/-- What fails is answered with status 500, or not at all. -/
theorem Fails.status {message : String} (h : Fails v a id answer message) {status : Int}
    (answers : Answers answer status) : status = 500 := by
  obtain ⟨r, hr, rfl⟩ := answers
  cases h with
  | unreachable => exact absurd hr (by simp)
  | refused =>
    obtain rfl := Except.ok.inj hr
    rfl
  | overlong =>
    obtain rfl := Except.ok.inj hr
    rfl

namespace Loaded

/-- Nothing that is shown of an answer is a panel. -/
theorem notMem_panel (h : Loaded v name a id answer es) (title : String) :
    .panel title ∉ es := by
  cases h with
  | record =>
    rw [List.mem_cons, not_or]
    exact ⟨by simp, notMem_shownResult fun h => h⟩
  | missing => simp
  | failed => simp

/-- **The warning is shown where the answer is no record**, be it missing or not. -/
theorem warning_iff (h : Loaded v name a id answer es) :
    .warning "Analysis not found" ∈ es ↔ ¬ Answers answer 200 := by
  cases h with
  | record =>
    refine iff_of_false ?_ fun hnot => hnot ⟨_, rfl, rfl⟩
    rw [List.mem_cons, not_or]
    exact ⟨by simp, notMem_shownResult_of_style (by simp)⟩
  | missing =>
    refine iff_of_true List.mem_cons_self ?_
    rintro ⟨r, hr, hstatus⟩
    obtain rfl := Except.ok.inj hr
    exact absurd hstatus (by decide)
  | failed fails =>
    refine iff_of_true (by simp) fun hanswers => ?_
    exact absurd (fails.status hanswers) (by decide)

/-- **An error is shown where the question has failed**, and nowhere else. -/
theorem error_iff (h : Loaded v name a id answer es) :
    (∃ text, .error text ∈ es) ↔ ¬ Answers answer 200 ∧ ¬ Answers answer 404 := by
  cases h with
  | record =>
    refine iff_of_false ?_ fun hnot => hnot.1 ⟨_, rfl, rfl⟩
    rintro ⟨text, hmem⟩
    rcases List.mem_cons.mp hmem with he | hmem
    · exact absurd he (by simp)
    · exact notMem_shownResult_of_style (by simp) hmem
  | missing => exact iff_of_false (by simp) fun hnot => hnot.2 ⟨_, rfl, rfl⟩
  | failed fails =>
    refine iff_of_true ⟨_, List.mem_cons_self⟩ ⟨fun hanswers => ?_, fun hanswers => ?_⟩
    · exact absurd (fails.status hanswers) (by decide)
    · exact absurd (fails.status hanswers) (by decide)

/-- **A number without a record is told to have none**, if nothing is in the way of asking. -/
theorem eq_of_unknown (h : Loaded v name a id answer es) (unknown : a.get id = .ok none)
    (up : v.outage = none) (fetched : ∀ message, a.store.failing? ≠ some (.fetch, message))
    (short : Numeral.Short id) : es = [.warning "Analysis not found"] := by
  cases h with
  | record kept => simp [unknown] at kept
  | missing => rfl
  | failed fails =>
    cases fails with
    | unreachable down => simp [up] at down
    | refused failing => exact absurd failing (fetched _)
    | overlong long => exact absurd short long

/-- **A number that the store refuses to look up** is shown as a failure, and as one without a
record. -/
theorem eq_of_refused (h : Loaded v name a id answer es) {error : StoreError}
    (refused : a.get id = .error error) (up : v.outage = none) :
    es = [.error "Failed to load analysis: Failed to retrieve analysis",
      .warning "Analysis not found"] := by
  cases h with
  | record kept => simp [refused] at kept
  | missing unknown => simp [refused] at unknown
  | failed fails =>
    cases fails with
    | unreachable down => simp [up] at down
    | _ => rfl

end Loaded

/-! ## 2. What is shown of it -/

/-- The question after a number is a request for its record. -/
theorem respond_number (a : Archive) (id : Int) :
    respond a (Question.analysis (.int id)).request = (Service.record a (Numeral.text id), a) :=
  respond_segment a (Numeral.text_ne_empty id) (Numeral.notMem_text rfl (by decide) id) [] none

/-- A number that is short enough is what its numeral asks for. -/
theorem recordOf_text (a : Archive) (short : Numeral.Short id) :
    recordOf a (Numeral.text id) = a.get id := by
  rw [recordOf, Numeral.leading_text short]
  rfl

/-- What is shown of a failure of the service. -/
theorem draws_failure (v : Visit) (id : Int) :
    Draws (drawShared v ((Question.analysis (.int id)).read
        (.ok (.ofResponse (failure 500 "Failed to retrieve analysis"))))) ()
      [.error ("Failed to load analysis: " ++ "Failed to retrieve analysis"),
        .warning "Analysis not found"] := by
  have hstatus : (Reply.ofResponse (failure 500 "Failed to retrieve analysis")).status ≠ 404 :=
    show ((500 : Nat) : Int) ≠ 404 by decide
  have hfailed : (Reply.ofResponse (failure 500 "Failed to retrieve analysis")).isSuccess = false :=
    show (((500 : Nat) : Int).fdiv 100 == 2) = false by decide
  have htext : "Failed to retrieve analysis" ≠ "" := by decide
  rw [Question.read_of_not_missing (by simp) fun hmissing => hstatus hmissing.2,
    check_failure htext 500 hfailed]
  exact draws_shared_error v _

/-- **What is shown to whoever asks for a number**, over a store in order. -/
theorem exists_loaded (unscripted : ∀ q, v.scripted q = none) (orderly : a.store.Orderly)
    (id : Int) (named : Display.exportName v.now = .ok name) :
    ∃ es, Loaded v name a id (reply v a (.analysis (.int id))).1 es ∧
      Draws (drawShared v ((Question.analysis (.int id)).read
        (reply v a (.analysis (.int id))).1)) () es := by
  cases hdown : v.outage with
  | some message =>
    have hreply : (reply v a (.analysis (.int id))).1 = .error message := by
      rw [reply, hdown]
    rw [hreply]
    exact ⟨_, .failed (.unreachable hdown), draws_shared_error v (.refused message)⟩
  | none =>
    have hreply : (reply v a (.analysis (.int id))).1 =
        .ok (.ofResponse (Service.record a (Numeral.text id))) := by
      rw [reply_healthy ⟨hdown, unscripted⟩, respond_number]
    rw [hreply]
    by_cases hshort : Numeral.Short id
    · rw [Service.record, recordOf_text a hshort]
      rcases Archive.get_cases orderly hshort with ⟨r, hget, hid, hwritable⟩ | hget |
        ⟨message, hfailing, hget⟩
      · rw [hget]
        have hread : (Question.analysis (.int id)).read
            (.ok (.ofResponse (.ofJson 200 r.toJson))) = .ok r.toJson :=
          check_ofJson (Record.readable_toJson hwritable 982)
        refine ⟨_, .record hget hid, ?_⟩
        rw [hread]
        exact draws_shared_record hwritable named
      · rw [hget]
        exact ⟨_, .missing hget, draws_shared_null v⟩
      · rw [hget]
        exact ⟨_, .failed (.refused hfailing), draws_failure v id⟩
    · rw [record_of_overlong a (Numeral.overlong_text hshort)]
      exact ⟨_, .failed (.overlong hshort), draws_failure v id⟩

/-! ## 3. Whatever has happened before -/

/-- A request that submits no source with more lines than can be numbered. -/
def Modest (request : Http.Request) : Prop :=
  ∀ value submission, contentValue request.content = .ok value →
    checkSubmission value = .ok submission → Editable submission.code

/-- A turn in which the service answers for itself, if it can be reached. -/
structure Turn.Honest (t : Turn) : Prop where
  unscripted : ∀ q, t.visit.scripted q = none
  short : ∀ code, t.typed = some code → Editable code

theorem Turn.Honest.edit {t : Turn} (h : t.Honest) {s : Session} (tidy : s.Tidy) :
    (t.edit s).Tidy :=
  t.tidy_edit h.short tidy

/-- A move that is none of somebody else who answers for the service, with sources of which the
lines can be numbered. -/
def Move.Honest : Move → Prop
  | .turn t => t.Honest
  | .request r => Modest r
  | .fail _ => True

variable {handed more : Nat}

/-- **A modest request leaves an archive in order.** -/
theorem Modest.tended {request : Http.Request} (modest : Modest request)
    (h : a.Tended handed (more + 1)) (short : Numeral.Short ((handed : Int) + 1)) :
    (respond a request).2.Tended (handed + 1) more := by
  rcases respond_cases a request with hsame | ⟨hmethod, hroute⟩
  · rw [hsame]
    exact h.mono
  rw [respond_submit a hmethod hroute]
  rcases submit_archive a request.content with hsame | ⟨_, submission, hvalue, hchecked, hcreate⟩
  · rw [hsame]
    exact h.mono
  · rw [hcreate]
    exact h.create short _ _ (Report.writable_analyze (modest _ _ hvalue hchecked) _)

/-- The question after the analysis of a source whose lines can be numbered is modest. -/
theorem modest_analyze {code : String} (hne : code ≠ "") (short : Editable code)
    (language : Language) :
    Modest (Question.analyze (.text code) (.text language.name)).request := by
  intro value submission hvalue hchecked
  obtain rfl : Submission.toJson ⟨code, language⟩ = value :=
    Except.ok.inj ((Submission.contentValue_toJson ⟨code, language⟩).symm.trans hvalue)
  obtain rfl : ⟨code, language⟩ = submission :=
    Except.ok.inj ((Submission.checkSubmission_toJson hne).symm.trans hchecked)
  exact short

/-- **An analysis leaves the session tidy and the archive in order**, if nobody else answers for the
service. -/
theorem analyze_tended {desk : Desk} {code : String} {language : Language}
    (unscripted : ∀ q, v.scripted q = none) (tidy : desk.session.Tidy)
    (tended : desk.archive.Tended handed (more + 1)) (room : Numeral.Short ((handed : Int) + 1))
    (short : Editable code) :
    Ends (analyze v code language) desk fun outcome after =>
      outcome ≠ .error .redraw ∧ after.session.Tidy ∧ after.archive.Tended (handed + 1) more := by
  by_cases hblank : (Text.strip code.toList).isEmpty = true
  · unfold analyze
    rw [if_pos hblank]
    exact ⟨ok_ne_redraw (), tidy, tended.mono⟩
  have hne : code ≠ "" := by
    rintro rfl
    exact hblank rfl
  cases hdown : v.outage with
  | some message =>
    have hreply : reply v desk.archive (.analyze (.text code) (.text language.name)) =
        (.error message, desk.archive) := by
      rw [reply, hdown]
    unfold analyze
    rw [if_neg hblank]
    simp only [ends_bind, ends_draw, next_ok, ends_ask, hreply, Question.read]
    exact ⟨ok_ne_redraw (), tidy, tended.mono⟩
  | none =>
    have hhealthy : v.Healthy := ⟨hdown, unscripted⟩
    obtain ⟨last, hlast, hupTo⟩ := tended.within
    -- the outcome tells what the session is, and the question that was asked what the archive is
    have houtcome : Ends (analyze v code language) desk fun outcome after =>
        outcome = .ok () ∧ (Kept code language desk after ∨ Refused desk after) :=
      analyze_outcome hhealthy hupTo (short_succ_of_le hlast room) short
        (Bool.eq_false_of_not_eq_true hblank)
    obtain ⟨archive, hasked, hchanges⟩ := analyze_session v code language desk
    refine ⟨hchanges.redraw, ?_, ?_⟩
    · rcases houtcome with ⟨-, hkept | hrefused⟩
      · obtain ⟨r, -, hid, -, -, hsession⟩ := hkept.record
        rw [hsession]
        exact tidy.set (fits_result (shows_answer
          (Report.readable_members short language.name hid 0) code language.name
          desk.archive.clock.now))
      · rw [hrefused.session]
        exact tidy
    · rw [hchanges.archive]
      rcases hasked with rfl | rfl
      · exact tended.mono
      · simp only [reply_healthy hhealthy]
        exact (modest_analyze hne short language).tended tended room

namespace Site

/-- All sessions are tidy, no more than so many numbers have been handed out, the store is in order,
and so many more readings of the clock can be written. -/
structure Tended (site : Site) (handed more : Nat) : Prop where
  tidy : ∀ visitor, (site.sessions visitor).Tidy
  archive : site.archive.Tended handed more

variable {site : Site}

theorem IsNew.tended (h : site.IsNew) (years : site.archive.clock.InYears more) :
    site.Tended 0 more where
  tidy visitor := by
    rw [h.1 visitor]
    exact Session.tidy_empty
  archive := ⟨h.reached.within, h.2.orderly, years⟩

/-- **What every honest move leaves.** -/
theorem Tended.move (h : site.Tended handed (more + 1))
    (short : Numeral.Short ((handed : Int) + 1)) {m : Move} (honest : m.Honest) :
    (site.move m).Tended (handed + 1) more := by
  cases m with
  | turn t =>
    have hhonest : t.Honest := honest
    obtain ⟨htidy, hafter⟩ : (site.desk t).session.Tidy ∧
        (site.desk t).archive.Tended (handed + 1) more :=
      visit_tidy (P := fun after => after.Tended (handed + 1) more)
        (hhonest.edit (h.tidy t.visitor)) h.archive.mono
        fun _ code language begun heditable htidy hbegun =>
          analyze_tended hhonest.unscripted htidy (hbegun ▸ h.archive) short heditable
    exact ⟨next_tidy h.tidy htidy, hafter⟩
  | request request =>
    have hmodest : Modest request := honest
    exact ⟨h.tidy, hmodest.tended h.archive short⟩
  | fail failing => exact ⟨h.tidy, (h.archive.fail failing).mono⟩

/-- **What honest moves leave**: tidy sessions and an archive in order. -/
theorem Tended.follow {moves : List Move} (h : site.Tended handed (moves.length + more))
    (short : Numeral.Short ((handed + moves.length : Nat) : Int))
    (honest : ∀ m ∈ moves, m.Honest) :
    (site.follow moves).Tended (handed + moves.length) more := by
  induction moves generalizing site handed with
  | nil =>
    rw [List.length_nil, Nat.zero_add] at h
    exact h
  | cons m moves ih =>
    rw [List.forall_mem_cons] at honest
    rw [List.length_cons, Nat.add_comm moves.length, ← Nat.add_assoc] at short ⊢
    rw [List.length_cons, Nat.add_right_comm] at h
    refine ih (h.move (Numeral.short_of_le (Nat.le_add_right _ _) short) honest.1) short honest.2

/-- **What is in the panel** where a number is asked for, at a site in order. -/
theorem Tended.loading (h : site.Tended handed more) {t : Turn} (honest : t.Honest)
    (opens : t.Opens id) (named : Display.exportName t.visit.now = .ok name) :
    ∃ es, ShowsOpened (openingElements ++ es) (site.desk t).drawn ∧
      Loaded t.visit name site.archive id
        (reply t.visit site.archive (.analysis (.int id))).1 es := by
  obtain ⟨es, hloaded, hdraws⟩ :=
    exists_loaded honest.unscripted h.archive.orderly id named
  exact ⟨es, visit_ends (drawPage_asking (honest.edit (h.tidy t.visitor)) opens.pressed
    opens.wanted hdraws (hloaded.notMem_panel _) named), hloaded⟩

end Site

/-! ## 4. What is shown, and when -/

/-- **What *Load* shows, and when.**  Whatever has happened at a site since it was new, a visitor
asks for the record of a number.  The panel shows the record, if that is answered with status 200;
only the warning, if there is none and that is answered with status 404; and else an error with the
warning below it.  So the error is shown exactly where the question has failed, and the warning
wherever no record is answered.  The number of what has happened has at most 4300 digits, and that
many readings of the clock are in years that can be written. -/
theorem loading_outcome {site : Site} (new : site.IsNew) {moves : List Move}
    (honest : ∀ m ∈ moves, m.Honest) (few : Numeral.Short moves.length)
    (years : site.archive.clock.InYears moves.length) {t : Turn} (asks : t.Honest)
    (opens : t.Opens id) (named : Display.exportName t.visit.now = .ok name) :
    let archive := (site.follow moves).archive
    let answer := (reply t.visit archive (.analysis (.int id))).1
    ∃ es, ShowsOpened (openingElements ++ es) ((site.follow moves).desk t).drawn ∧
      Loaded t.visit name archive id answer es ∧
      ((∃ text, .error text ∈ es) ↔ ¬ Answers answer 200 ∧ ¬ Answers answer 404) ∧
      (.warning "Analysis not found" ∈ es ↔ ¬ Answers answer 200) := by
  intro archive answer
  have hnew : site.Tended 0 (moves.length + 0) := new.tended years
  have hshort : Numeral.Short ((0 + moves.length : Nat) : Int) := by rwa [Nat.zero_add]
  obtain ⟨es, hshown, hloaded⟩ := (hnew.follow hshort honest).loading asks opens named
  exact ⟨es, hshown, hloaded, hloaded.error_iff, hloaded.warning_iff⟩

/-- A site with a server that nobody has visited yet. -/
def newServerSite : Site := ⟨fun _ => .empty, ⟨.remote .empty, ⟨fun _ => 0, 0⟩⟩⟩

theorem isNew_newServerSite : newServerSite.IsNew := ⟨fun _ => rfl, .inr rfl⟩

theorem honest_secondTurn (id : Int) : (secondTurn id).Honest :=
  ⟨fun _ => rfl, (fair_secondTurn id).short⟩

/-- The first number asked for at that site finds nothing, if texts can be fetched. -/
theorem get_newServerSite (failing : Option (Command × String)) :
    (newServerSite.follow [.fail failing]).archive.get 1 =
      (Server.permit { Server.empty with failing := failing } .fetch).map fun _ => none := by
  show Remote.get { Server.empty with failing := failing } 1 = _
  rw [Remote.get, Remote.writtenKey_of_short (Numeral.short_of_lt (by decide))]
  simp only [Server.fetch, bind, Except.bind]
  cases Server.permit { Server.empty with failing := failing } .fetch <;> rfl

/-- The number of a record that is not there is asked for where the server refuses to store records,
and where it refuses to fetch them. -/
theorem loading_outcome_of_two :
    ShowsOpened (openingElements ++ [.warning "Analysis not found"])
        ((newServerSite.follow [.fail (some (.commit, "full"))]).desk (secondTurn 1)).drawn ∧
      ShowsOpened (openingElements ++
        [.error "Failed to load analysis: Failed to retrieve analysis",
          .warning "Analysis not found"])
        ((newServerSite.follow [.fail (some (.fetch, "gone"))]).desk (secondTurn 1)).drawn := by
  have hhonest : ∀ failing, ∀ m ∈ [Move.fail failing], m.Honest := by simp [Move.Honest]
  have few : Numeral.Short ((1 : Nat) : Int) :=
    Numeral.short_of_lt (show (1 : Int).natAbs < 2 ^ 64 by decide)
  have years : newServerSite.archive.clock.InYears 1 := inYears_newSite 1
  constructor
  · obtain ⟨es, hshown, hloaded, -⟩ := loading_outcome isNew_newServerSite
      (hhonest (some (.commit, "full"))) few years (honest_secondTurn 1) (opens_secondTurn 1)
      (named_turnBy _ _ _ _)
    have hunknown : (newServerSite.follow [.fail (some (.commit, "full"))]).archive.get 1 =
        .ok none := get_newServerSite _
    obtain rfl := hloaded.eq_of_unknown hunknown rfl (fun _ hfailing => nomatch hfailing) few
    exact hshown
  · obtain ⟨es, hshown, hloaded, -⟩ := loading_outcome isNew_newServerSite
      (hhonest (some (.fetch, "gone"))) few years (honest_secondTurn 1) (opens_secondTurn 1)
      (named_turnBy _ _ _ _)
    have hrefused : (newServerSite.follow [.fail (some (.fetch, "gone"))]).archive.get 1 =
        .error (.refused "gone") := get_newServerSite _
    obtain rfl := hloaded.eq_of_refused hrefused rfl
    exact hshown

/-- **A failure is shown as a record that is not there**: the server refuses to fetch texts, which is
not answered with status 404, and both the error and the warning are shown. -/
theorem loading_failure_warns :
    let site := newServerSite.follow [.fail (some (.fetch, "gone"))]
    ∃ es, ShowsOpened (openingElements ++ es) (site.desk (secondTurn 1)).drawn ∧
      ¬ Answers (reply (secondTurn 1).visit site.archive (.analysis (.int 1))).1 404 ∧
      .error "Failed to load analysis: Failed to retrieve analysis" ∈ es ∧
      .warning "Analysis not found" ∈ es := by
  intro site
  have hnew : newServerSite.Tended 0 1 := isNew_newServerSite.tended (inYears_newSite 1)
  have hsite : site.Tended 1 0 :=
    hnew.move (m := .fail (some (.fetch, "gone"))) (Numeral.short_of_lt (by decide)) trivial
  obtain ⟨es, hshown, hloaded⟩ := hsite.loading (honest_secondTurn 1) (opens_secondTurn 1)
    (named_turnBy _ _ _ _)
  have hrefused : site.archive.get 1 = .error (.refused "gone") := get_newServerSite _
  obtain rfl := hloaded.eq_of_refused hrefused rfl
  have herror := hloaded.error_iff.mp ⟨_, List.mem_cons_self⟩
  exact ⟨_, hshown, herror.2, by simp, by simp⟩

end Critique.Page
