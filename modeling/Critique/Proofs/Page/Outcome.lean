/-
# An analysis goes through, or it changes nothing

Between the button and the record lie the page, its client, the service and the store.  An analysis
goes through all of them or it is refused, and where it is refused nothing has changed but what the
visitor is told: not the result, not what stands in the editor or was saved, not the records and not
the index.

Only the store can refuse.  The page sends no source that the service would not take: a blank one is
not sent at all, and the language is one of those that can be picked.  What the store refuses comes
back as a failure with a message, and the page keeps an answer only when there is nothing left that
could fail.  Behind the editor nothing changes any more (`calm_drawRest`), so what is known of the
analysis is known of the visit.

What may have happened at the site before does not matter: any turns of any visitors, whatever was
replied to them, requests from elsewhere, and commands that were made to fail (`Site.Reached`).

* `analyze_outcome`: an analysis went through, or it was refused;
* `Site.Reached.follow`: what is known of a site after whatever has happened at it;
* `analysis_all_or_nothing`: what a visitor finds who presses the button.
-/
import Critique.Proofs.Page.Saving
import Critique.Proofs.Store.Making

namespace Critique.Page

open Drawing Service

variable {v : Visit} {desk : Desk} {s : Session} {a : Archive} {n : Notes} {code : String}
  {language : Language}

/-! ## 1. The analysis -/

/-- An analysis went through: exactly one record was added, which is the one of the source, and its
answer is the result, with the language.  No error was drawn. -/
structure Kept (code : String) (language : Language) (desk after : Desk) : Prop where
  record : ∃ r, r = Record.ofReport r.id code language.name (Report.analyze code language.name)
      desk.archive.clock.now ∧
    Numeral.Short r.id ∧
    desk.archive.store.Gains r after.archive.store ∧
    (respond desk.archive (Question.analyze (.text code) (.text language.name)).request).1 =
      submitted (Report.analyze code language.name) (.ok r) ∧
    after.session = desk.session.set "result"
      (answerOf r.id language.name (Report.analyze code language.name))
  errors : texts .error after.drawn = texts .error desk.drawn
  permitted : ∀ message, ¬ desk.archive.store.Refuses message

/-- An analysis was refused: the error was drawn, and session and records are the same. -/
structure Refused (desk after : Desk) : Prop where
  told : ∃ text, text ≠ "" ∧ texts .error after.drawn = texts .error desk.drawn ++ [text]
  session : after.session = desk.session
  store : desk.archive.store.Same after.archive.store
  refuses : ∃ message, desk.archive.store.Refuses message

/-- Calm pieces do not change the outcome. -/
theorem Kept.calm {between after : Desk} (h : Kept code language desk between)
    (calm : Unalarmed between after) : Kept code language desk after := by
  obtain ⟨hrecord, herrors, hpermitted⟩ := h
  rw [← calm.session, ← calm.archive] at hrecord
  exact ⟨hrecord, calm.errors.trans herrors, hpermitted⟩

theorem Refused.calm {between after : Desk} (h : Refused desk between)
    (calm : Unalarmed between after) : Refused desk after := by
  obtain ⟨told, hsession, hstore, hrefuses⟩ := h
  rw [← calm.errors] at told
  rw [← calm.archive] at hstore
  exact ⟨told, calm.session.trans hsession, hstore, hrefuses⟩

/-- What a refusal is answered as. -/
theorem submitted_refused (report : Report) (message : String) :
    ∃ text, text ≠ "" ∧ submitted report (.error (.refused message)) = failure 500 text := by
  by_cases h : message = ""
  · exact ⟨"Failed to analyze code", by decide, by simp [submitted, StoreError.message, h]⟩
  · exact ⟨message, h, by simp [submitted, StoreError.message, h]⟩

/-- **An analysis goes through, or it is refused**, and no other drawing is asked for. -/
theorem analyze_outcome (h : v.Healthy) {last : Nat} (upTo : desk.archive.store.UpTo last)
    (room : Numeral.Short ((last : Int) + 1)) (short : Editable code)
    (nonblank : (Text.strip code.toList).isEmpty = false) :
    Ends (analyze v code language) desk fun outcome after =>
      outcome = .ok () ∧ (Kept code language desk after ∨ Refused desk after) := by
  have hne : code ≠ "" := by
    rintro rfl
    exact absurd nonblank (by decide)
  have hreply : reply v desk.archive (.analyze (.text code) (.text language.name)) =
      (.ok (.ofResponse (submit desk.archive (sent code language)).1),
        (submit desk.archive (sent code language)).2) := by
    rw [reply_healthy h, respond_analyze]
  have hsubmit := submit_sent desk.archive hne language
  unfold analyze
  rw [if_neg (by simp [nonblank])]
  simp only [ends_bind, ends_draw, next_ok, ends_ask, hreply]
  rcases Archive.create_all_or_nothing upTo room code language.name
    (Report.analyze code language.name) with
    ⟨r, a', hcreate, hrecord, hgains, -, hpermitted⟩ | ⟨message, a', hcreate, hrefuses, hsame, -⟩
  · -- the answer can be read, so it is kept and can be told of
    rw [hcreate] at hsubmit
    have hid : Numeral.Short r.id := by
      rw [hrecord]
      exact room
    have hread : (Question.analyze (.text code) (.text language.name)).read
        (.ok (.ofResponse (submitted (Report.analyze code language.name) (.ok r)))) =
        .ok (.object (("id", .int r.id) :: (Report.analyze code language.name).members)) :=
      check_ofJson (Report.readable_members short language.name hid 982)
    obtain ⟨note, hnote⟩ :=
      analysisNote_answerOf r.id language.name (Report.analyze code language.name)
    simp only [hsubmit, hread, keepResult, Json.assign, ends_bind, ends_remember, next_ok]
    rw [answerOf] at hnote
    simp only [hnote, ends_draw, List.append_assoc, List.cons_append, List.nil_append]
    refine ⟨trivial, .inl ⟨⟨r, ?_, hid, hgains, ?_, rfl⟩, ?_, hpermitted⟩⟩
    · rw [hrecord]
      rfl
    · rw [respond_analyze, hsubmit]
    · exact (unalarmed_append desk rfl).errors
  · obtain ⟨text, htext, hfailure⟩ :=
      submitted_refused (Report.analyze code language.name) message
    rw [hcreate, hfailure] at hsubmit
    have hread : (Question.analyze (.text code) (.text language.name)).read
        (.ok (.ofResponse (failure 500 text))) = .error (.answered text 500) :=
      check_failure htext 500 (show (((500 : Nat) : Int).fdiv 100 == 2) = false by decide)
    simp only [hsubmit, hread, ends_draw, analysisFailure, if_neg htext, List.append_assoc,
      List.cons_append, List.nil_append]
    exact ⟨trivial, .inr ⟨⟨text, htext, texts_append ..⟩, rfl, hsame, message, hrefuses⟩⟩

/-! ## 2. The visit -/

/-- Where no error has been drawn, there are no texts of errors. -/
theorem texts_error_of_notMem {drawn : List Element} (h : ∀ title, .error title ∉ drawn) :
    texts .error drawn = [] := by
  refine List.filterMap_eq_nil_iff.mpr fun e he => ?_
  cases e with
  | text style title =>
    by_cases hstyle : style = .error
    · subst hstyle
      exact absurd he (h title)
    · exact if_neg hstyle
  | _ => rfl

/-- A drawing has begun with the session and the archive, and an analysis went through or was
refused. -/
def Decided (n : Notes) (a : Archive) (desk : Desk) : Prop :=
  ∃ begun : Desk, begun.session.Settled n ∧ begun.archive = a ∧ texts .error begun.drawn = [] ∧
    (Kept n.code n.language begun desk ∨ Refused begun desk)

/-- **A visit in which the source in the editor is analysed** is decided by the analysis. -/
theorem visit_decided (h : v.Healthy) (reads : s.Reads n) {last : Nat} (upTo : a.store.UpTo last)
    (room : Numeral.Short ((last : Int) + 1)) (pressed : v.pressed = some "Analyze Code")
    (short : Editable n.code) (nonblank : (Text.strip n.code.toList).isEmpty = false) :
    Decided n a (visit v s a).2 := by
  obtain ⟨settled, hrun, hsettled⟩ := reads.runPending
  refine visit_ends (ends_drawPage hrun fun front hfront asked => ?_)
  have hfirst : texts .error front = [] :=
    texts_error_of_notMem fun title => hfront .error title (by simp)
  -- of all buttons only that of the analysis is pressed
  refine ends_drawEditor_button hsettled.code hsettled.label (fun _ saved => ?_)
    (fun hother => ?_) (fun hother => ?_) (fun hother => ?_) (fun hother => ?_)
  case _ =>
    have hdrawn : texts .error (front ++ editorElements n.code saved) = [] := by
      rw [texts_append, hfirst]
      rfl
    refine (analyze_outcome h upTo room short nonblank).mono ?_
    rintro _ between ⟨rfl, houtcome⟩
    rw [next_ok]
    refine (calm_drawRest (by rw [pressed]; decide) between).mono
      fun outcome after ⟨hcalm, hredraw⟩ => ⟨hredraw, ?_⟩
    refine ⟨_, ?_, ?_, ?_, houtcome.imp (Kept.calm · hcalm) (Refused.calm · hcalm)⟩
    · exact hsettled
    · rfl
    · exact hdrawn
  all_goals simp [pressed] at hother

/-! ## 3. Whatever has happened before -/

/-- What happens at a site: a visitor takes a turn, somebody else asks the service, or the server is
made to refuse another command, or none. -/
inductive Move where
  | turn (t : Turn)
  | request (request : Http.Request)
  | fail (failing : Option (Command × String))

namespace Site

/-- The site after a move. -/
def move (site : Site) : Move → Site
  | .turn t => site.next t
  | .request request => { site with archive := (respond site.archive request).2 }
  | .fail failing => { site with archive := site.archive.handle (.fail failing) }

/-- The site after moves. -/
def follow (site : Site) (moves : List Move) : Site :=
  moves.foldl move site

/-- Every session stands for some notes, and no more than so many numbers have been handed out. -/
structure Reached (site : Site) (count : Nat) : Prop where
  reads : ∀ visitor, ∃ n, (site.sessions visitor).Reads n
  within : site.archive.store.Within count

variable {site : Site} {count : Nat}

theorem IsNew.reached (h : site.IsNew) : site.Reached 0 where
  reads visitor := ⟨.new, by rw [h.1 visitor]; exact Session.reads_empty⟩
  within := ⟨0, Nat.le_refl 0, h.2.upTo⟩

end Site

/-- An archive that is asked hands out one more number at most. -/
theorem Answered.within {a a' : Archive} {count : Nat} (h : Answered a a')
    (within : a.store.Within count) (short : Numeral.Short ((count : Int) + 1)) :
    a'.store.Within (count + 1) := by
  rcases h with rfl | ⟨request, rfl⟩
  · exact within.mono (Nat.le_succ count)
  rcases respond_cases a request with hsame | ⟨hmethod, hroute⟩
  · rw [hsame]
    exact within.mono (Nat.le_succ count)
  rw [respond_submit a hmethod hroute]
  rcases submit_archive a request.content with hsame | ⟨_, submission, -, -, hcreate⟩
  · rw [hsame]
    exact within.mono (Nat.le_succ count)
  · rw [hcreate]
    exact Archive.create_within within short _ _ _

namespace Site

variable {site : Site} {count : Nat}

/-- **What is known of a site after a move.** -/
theorem Reached.move (h : site.Reached count) (short : Numeral.Short ((count : Int) + 1))
    (m : Move) : (site.move m).Reached (count + 1) := by
  cases m with
  | turn t =>
    obtain ⟨n, hreads⟩ := h.reads t.visitor
    obtain ⟨hanswered, answer, hsettled⟩ :=
      visit_presses t.visit site.archive (t.reads_edit hreads)
    refine ⟨fun visitor => ?_, hanswered.within h.within short⟩
    by_cases hown : t.visitor = visitor
    · subst hown
      obtain ⟨answer, hnext⟩ := next_presses hreads
      exact ⟨_, hnext.toReads⟩
    · rw [Site.move, next_other hown]
      exact h.reads visitor
  | request request => exact ⟨h.reads, Answered.within (.inr ⟨request, rfl⟩) h.within short⟩
  | fail failing => exact ⟨h.reads, (Archive.within_fail failing h.within).mono (Nat.le_succ count)⟩

/-- **What is known of a site after whatever has happened at it.** -/
theorem Reached.follow (h : site.Reached count) (moves : List Move)
    (short : Numeral.Short ((count + moves.length : Nat) : Int)) :
    (site.follow moves).Reached (count + moves.length) := by
  induction moves generalizing site count with
  | nil => exact h
  | cons m moves ih =>
    rw [List.length_cons, Nat.add_comm moves.length, ← Nat.add_assoc] at short ⊢
    exact ih (h.move (Numeral.short_of_le (Nat.le_add_right _ _) short) m) short

end Site

/-! ## 4. What the visitor finds -/

/-- The source and its language stand in the editor, and what was saved is saved still. -/
structure SameEditor (code : String) (language : Language) (before after : Session) : Prop where
  code : after.get? "code" = some (.text code)
  label : after.get? "language_label" = some (.text language.label)
  saved : after.get? "saved" = before.get? "saved"

namespace Site

/-- In its turn a visitor has had a source analysed: the store has exactly one record more, which is
the one of the source, the result is what the service has answered, with the language, and no error
is shown. -/
structure Analysed (site : Site) (t : Turn) (code : String) (language : Language) : Prop where
  kept : ∃ r content result,
    r = Record.ofReport r.id code language.name (Report.analyze code language.name)
      site.archive.clock.now ∧
    site.archive.store.Gains r (site.next t).archive.store ∧
    (respond site.archive (Question.analyze (.text code) (.text language.name)).request).1 =
      .ofJson 200 content ∧
    content.assign "language" (.text language.name) = .ok result ∧
    ((site.next t).sessions t.visitor).get? "result" = some result
  editor : SameEditor code language (site.session t) ((site.next t).sessions t.visitor)
  silent : texts .error (site.desk t).drawn = []

/-- In its turn a visitor was refused the analysis of a source: one error is shown, and result,
editor, what was saved, records and index are as they were. -/
structure Spoiled (site : Site) (t : Turn) (code : String) (language : Language) : Prop where
  told : ∃ text, text ≠ "" ∧ texts .error (site.desk t).drawn = [text]
  result : ((site.next t).sessions t.visitor).get? "result" =
    some (((site.session t).get? "result").getD .null)
  editor : SameEditor code language (site.session t) ((site.next t).sessions t.visitor)
  store : site.archive.store.Same (site.next t).archive.store

variable {site : Site} {t : Turn} {begun : Desk}

/-- The session of a visitor is the one that the turn leaves. -/
theorem next_own (site : Site) (t : Turn) :
    (site.next t).sessions t.visitor = (site.desk t).session := if_pos rfl

/-- An analysis that went through, as the visitor finds it. -/
theorem analysed_of_kept (reads : (site.session t).Reads n) (settled : begun.session.Settled n)
    (archive : begun.archive = site.archive) (errors : texts .error begun.drawn = [])
    (h : Kept n.code n.language begun (site.desk t)) : site.Analysed t n.code n.language := by
  obtain ⟨⟨r, hrecord, -, hgains, hanswer, hsession⟩, herrors, -⟩ := h
  rw [archive] at hrecord hgains hanswer
  have hafter := hsession ▸ settled.set_result
    (answerOf r.id n.language.name (Report.analyze n.code n.language.name))
  rw [← next_own] at hafter
  refine ⟨⟨r, _, _, hrecord, hgains, hanswer, rfl, hafter.shown⟩, ⟨hafter.code, hafter.label, ?_⟩,
    herrors.trans errors⟩
  rw [hafter.saved, reads.saved]

/-- An analysis that was refused, as the visitor finds it. -/
theorem spoiled_of_refused (reads : (site.session t).Reads n) (settled : begun.session.Settled n)
    (archive : begun.archive = site.archive) (errors : texts .error begun.drawn = [])
    (h : Refused begun (site.desk t)) : site.Spoiled t n.code n.language := by
  obtain ⟨⟨text, htext, htold⟩, hsession, hstore, -⟩ := h
  rw [archive] at hstore
  rw [errors, List.nil_append] at htold
  have hafter := hsession.symm ▸ settled
  rw [← next_own] at hafter
  refine ⟨⟨text, htext, htold⟩, ?_, ⟨hafter.code, hafter.label, ?_⟩, hstore⟩
  · rw [hafter.shown, reads.result]
  · rw [hafter.saved, reads.saved]

end Site

/-- **An analysis goes through, or it changes nothing.**  Whatever has happened at a site since it
was new, a visitor has a source analysed that is not blank.  Either one record is added, the answer
becomes the result and no error is shown, or an error is shown and neither the session nor the
records nor the index are changed; and the latter exactly where the server is made to refuse one of
the two commands that make a record.  The number of lines has at most 4300 digits, and so has the
number of what has happened. -/
theorem analysis_all_or_nothing {site : Site} (new : site.IsNew) {moves : List Move}
    (few : Numeral.Short (moves.length + 1)) {t : Turn} (healthy : t.visit.Healthy)
    (analyses : (site.follow moves).Analyses t code language) (short : Editable code) :
    ((site.follow moves).Analysed t code language ∨ (site.follow moves).Spoiled t code language) ∧
      ((site.follow moves).Spoiled t code language ↔
        ∃ message, (site.follow moves).archive.store.Refuses message) := by
  have hreached : (site.follow moves).Reached (0 + moves.length) :=
    new.reached.follow moves (Numeral.short_of_le (by omega) few)
  rw [Nat.zero_add] at hreached
  obtain ⟨n, hn⟩ := hreached.reads t.visitor
  obtain ⟨last, hlast, hupTo⟩ := hreached.within
  have hreads := t.reads_edit hn
  obtain ⟨rfl, rfl⟩ := hreads.of_editing analyses.editing
  obtain ⟨begun, hsettled, harchive, herrors, houtcome⟩ := visit_decided healthy hreads hupTo
    (short_succ_of_le hlast few) analyses.pressed short analyses.nonblank
  rcases houtcome with hkept | hrefused
  · have hanalysed := Site.analysed_of_kept hreads hsettled harchive herrors hkept
    refine ⟨.inl hanalysed, fun hspoiled => ?_, fun ⟨message, hrefuses⟩ => ?_⟩
    · obtain ⟨text, -, htold⟩ := hspoiled.told
      exact absurd (hanalysed.silent.symm.trans htold) (by simp)
    · exact absurd (harchive ▸ hrefuses) (hkept.permitted message)
  · have hspoiled := Site.spoiled_of_refused hreads hsettled harchive herrors hrefused
    exact ⟨.inr hspoiled, fun _ => harchive ▸ hrefused.refuses, fun _ => hspoiled⟩

/-- A line is analysed where the server refuses to look up records, and where it refuses to store
them. -/
theorem analysis_all_or_nothing_of_two :
    let site : Site := ⟨fun _ => .empty, ⟨.remote .empty, ⟨fun _ => 0, 0⟩⟩⟩
    (site.follow [.fail (some (.fetch, "away"))]).Analysed firstTurn "var x = 1;" .javascript ∧
      (site.follow [.fail (some (.commit, ""))]).Spoiled firstTurn "var x = 1;" .javascript := by
  intro site
  have hnew : site.IsNew := ⟨fun _ => rfl, .inr rfl⟩
  have hhealthy : firstTurn.visit.Healthy := fair_firstTurn.healthy
  have hshort : Editable "var x = 1;" := fair_firstTurn.short _ rfl
  have few : ∀ m : Move, Numeral.Short (([m].length : Nat) + 1) :=
    fun _ => Numeral.short_of_lt (show ((1 : Int) + 1).natAbs < 2 ^ 64 by decide)
  constructor
  · obtain ⟨houtcome, hspoiled⟩ :=
      analysis_all_or_nothing hnew (few _) hhealthy analyses_firstTurn hshort
    refine houtcome.resolve_right fun h => ?_
    obtain ⟨message, hrefuses⟩ := hspoiled.mp h
    simp [Site.follow, Site.move, site, Archive.handle, Archive.onServer, Store.Refuses,
      Store.failing?] at hrefuses
  · exact (analysis_all_or_nothing hnew (few _) hhealthy analyses_firstTurn hshort).2.mpr
      ⟨"", .inr rfl⟩

end Critique.Page
