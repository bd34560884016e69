/-
# A shared analysis, opened

A visitor has a source analysed and passes the number of the record on.  Whoever opens that number
later, in whatever session and after whatever turns, is shown the record from which the analysis was
shown: the same score, the same findings, the same rewrite and the same link.

The tally is another matter.  The page draws the answer to an analysis and a record with one piece
of code, a record has no tally, and the page reads a missing tally as one of zeros.  So the five
counts over an opened record are zeros, whatever stands below them; they are the counts of the
analysis only where it has found nothing.

* `drawPage_analysis`: an analysis is kept, and shown from its record;
* `drawPage_asking` and `drawPage_opening`: what is shown to whoever asks for a number, and that a
  record that is kept is shown to whoever opens it;
* `opened_shows_record`: what is shown of an analysis and of its record, any number of turns later;
* `Site.Sound.metrics_agree_iff`: the two show the same counts only where nothing has been found.
-/
import Critique.Proofs.Page.Turns

namespace Critique.Page

open Drawing Service

/-! ## 1. Parts of the screen -/

/-- Elements stand on the screen behind the first of one mark, up to the next of another. -/
def Between (mark : Element) (es : List Element) (stop : Element) (drawn : List Element) : Prop :=
  ∃ front back, drawn = front ++ mark :: (es ++ stop :: back) ∧ mark ∉ front ∧ stop ∉ es

/-- The elements of the result that a visitor sees. -/
abbrev ShowsResult (es drawn : List Element) : Prop :=
  Between (.heading "Analysis results") es (.line "---") drawn

/-- The elements that a visitor sees of the record that was opened. -/
abbrev ShowsOpened (es drawn : List Element) : Prop :=
  Between (.panel "Open a shared analysis") es (.panel "Recent analyses") drawn

/-- What is drawn behind the second mark does not matter. -/
theorem Between.of_prefix {mark stop : Element} {es drawn : List Element} (front : List Element)
    (h : front ++ mark :: (es ++ [stop]) <+: drawn) (hmark : mark ∉ front) (hstop : stop ∉ es) :
    Between mark es stop drawn := by
  obtain ⟨back, rfl⟩ := h
  exact ⟨front, back, by simp, hmark, hstop⟩

/-! ## 2. The two drawings -/

variable {v : Visit} {s : Session} {a : Archive} {count : Nat} {code name : String}
  {language : Language}

/-- **An analysis is kept, and shown from its record**, with the tally of its report. -/
theorem drawPage_analysis (h : v.Healthy) (tidy : s.Tidy) (ready : Ready a (count + 1))
    (pressed : v.pressed = some "Analyze Code") (editing : s.Editing code language)
    (short : Editable code) (nonblank : (Text.strip code.toList).isEmpty = false)
    (named : Display.exportName v.now = .ok name) :
    Ends (drawPage v) ⟨s, a, [], []⟩ fun outcome desk => outcome ≠ .error .redraw ∧
      ∃ r, a.Made code language.name (Report.analyze code language.name) r desk.archive ∧
        ShowsResult (shownResult v.filter
          (answerOf r.id language.name (Report.analyze code language.name)).renderIndented name r
          (Report.analyze code language.name).tally) desk.drawn := by
  obtain ⟨hrun, hafter⟩ := editing.runPending tidy.pending
  obtain ⟨hcode, hlabel⟩ := hafter.fillIn
  refine ends_drawPage hrun fun front hfront asked => ?_
  refine ends_drawEditor hcode hlabel (fun _ saved => ?_) (fun hsave => ?_) (fun hagain => ?_)
    (fun hnot => ?_)
  case _ =>
    refine ends_analyze h ready short (fun hblank => ?_) (fun _ r archive hmade note => ?_)
    · exact absurd hblank (by simp [nonblank])
    have hshows : Shows (answerOf r.id language.name (Report.analyze code language.name)) r
        (Report.analyze code language.name).tally := by
      rw [hmade.record]
      exact shows_answer (Report.readable_members short language.name
        (hmade.short _ ready.room) 0) code _ _
    rw [next_ok, drawRest, ends_bind, ends_drawLast_result (Session.get?_set _ _ _) hshows named]
    rw [next_ok, ends_bind, ends_draw, next_ok]
    have hquiet : Quiet (do drawOpening v; drawRecent v) :=
      (quiet_drawOpening v).bind fun _ => (calm_drawRecent v).quiet
    refine (hquiet _).mono fun outcome desk ⟨hgrows, hredraw⟩ => ⟨hredraw, r, ?_, ?_⟩
    · rw [hgrows.archive]
      exact hmade
    · refine Between.of_prefix (front ++ (editorElements code saved ++
        [.activity "Analyzing code...", .toast note])) ?_ ?_ (notMem_shownResult (fun h => h rfl))
      · simpa using hgrows.drawn
      · simp [editorElements, hfront]
  case _ => exact absurd (pressed.symm.trans hsave) (by decide)
  case _ => simp [pressed] at hagain
  case _ => exact absurd pressed hnot

/-- **Whoever asks for a number is shown what the answer is shown as**, and nothing else in the
panel. -/
theorem drawPage_asking (tidy : s.Tidy) {id : Int} {es : List Element}
    (pressed : v.pressed = some "Load") (wanted : v.sharedId.integer = .ok id)
    (shown : Draws (drawShared v ((Question.analysis (.int id)).read
      (reply v a (.analysis (.int id))).1)) () es)
    (inside : .panel "Recent analyses" ∉ es) (named : Display.exportName v.now = .ok name) :
    Ends (drawPage v) ⟨s, a, [], []⟩ fun outcome desk => outcome ≠ .error .redraw ∧
      ShowsOpened (openingElements ++ es) desk.drawn := by
  obtain ⟨action, after, hrun, hafter⟩ := (tidy.forget "pending_action").runPending
  obtain ⟨code, language, editing, -⟩ := hafter.editing
  obtain ⟨hcode, hlabel⟩ := editing.fillIn
  refine ends_drawPage hrun fun front hfront asked => ?_
  refine ends_drawEditor hcode hlabel (fun hrun => ?_) (fun hsave => ?_) (fun hagain => ?_)
    (fun _ saved => ?_)
  case _ => exact absurd (pressed.symm.trans hrun) (by decide)
  case _ => exact absurd (pressed.symm.trans hsave) (by decide)
  case _ => simp [pressed] at hagain
  case _ =>
    rw [next_ok, drawRest, ends_bind]
    refine ends_drawLast hafter.fillIn named fun last hlast => ?_
    rw [next_ok, ends_bind, ends_draw, next_ok, ends_bind, ends_drawOpening pressed wanted shown]
    rw [next_ok, drawRecent, ends_bind, ends_draw, next_ok]
    have hcalm : Calm (do
        let answer ← ask v (.recent (.int Archive.defaultLimit))
        drawAll (recentLines answer)) :=
      (calm_ask v rfl).bind fun answer => calm_drawAll (texts_recentLines answer)
    refine (hcalm.quiet _).mono fun outcome desk ⟨hgrows, hredraw⟩ => ⟨hredraw, ?_⟩
    refine Between.of_prefix (front ++ (editorElements code saved ++ (last ++ [.line "---"])))
      ?_ ?_ ?_
    · simpa using hgrows.drawn
    · simp [editorElements, hfront, hlast]
    · simp [openingElements, inside]

/-- **A record that is kept is shown to whoever opens it**, with a tally of zeros. -/
theorem drawPage_opening (h : v.Healthy) (tidy : s.Tidy) {r : Record} (working : a.store.Working)
    (keeps : a.store.Keeps r) (writable : r.Writable) (pressed : v.pressed = some "Load")
    (wanted : v.sharedId.integer = .ok r.id) (named : Display.exportName v.now = .ok name) :
    Ends (drawPage v) ⟨s, a, [], []⟩ fun outcome desk => outcome ≠ .error .redraw ∧
      ShowsOpened (openingElements ++ .source (.text r.code) (.text r.language)
        :: shownResult v.filter r.toJson.renderIndented name r .zero) desk.drawn := by
  refine drawPage_asking tidy pressed wanted ?_ ?_ named
  · rw [read_analysis h working keeps writable]
    exact draws_shared_record writable named
  · rw [List.mem_cons, not_or]
    exact ⟨by simp, notMem_shownResult fun h => h⟩

/-! ## 3. A run -/

/-- In its turn a visitor has the source analysed that stands in the editor, which is not blank. -/
structure Site.Analyses (site : Site) (t : Turn) (code : String) (language : Language) : Prop where
  pressed : t.visit.pressed = some "Analyze Code"
  editing : (site.session t).Editing code language
  nonblank : (Text.strip code.toList).isEmpty = false

/-- In its turn a visitor opens the record of a number. -/
structure Turn.Opens (t : Turn) (id : Int) : Prop where
  pressed : t.visit.pressed = some "Load"
  wanted : t.visit.sharedId.integer = .ok id

variable {site : Site} {t u : Turn}

/-- What an analysis leaves on the screen and in the archive. -/
theorem Site.Sound.analysis (h : site.Sound (count + 1)) (fair : t.Fair)
    (analyses : site.Analyses t code language) (named : Display.exportName t.visit.now = .ok name) :
    ∃ r, r = Record.ofReport r.id code language.name (Report.analyze code language.name)
        site.archive.clock.now ∧ (∀ n, site.archive.store.LastNumber n → r.id = n + 1) ∧
      r.Writable ∧ (site.next t).archive.store.Keeps r ∧
      ShowsResult (shownResult t.visit.filter
        (answerOf r.id language.name (Report.analyze code language.name)).renderIndented name r
        (Report.analyze code language.name).tally) (site.desk t).drawn := by
  have htidy := fair.edit (h.tidy t.visitor)
  have hshort := htidy.editable analyses.editing
  obtain ⟨r, hmade, hshown⟩ := visit_ends (drawPage_analysis fair.healthy htidy h.ready
    analyses.pressed analyses.editing hshort analyses.nonblank named)
  have hwritable : r.Writable := by
    rw [hmade.record]
    exact Record.writable_ofReport (hmade.short _ h.ready.room) (Report.writable_analyze hshort _)
      h.ready.years.fits _ _
  exact ⟨r, hmade.record, hmade.number, hwritable, hmade.keeps _ h.ready.room, hshown⟩

/-- What is on the screen where a record that is kept is opened. -/
theorem Site.Sound.opening (h : site.Sound count) (fair : u.Fair) {r : Record}
    (keeps : site.archive.store.Keeps r) (writable : r.Writable) (opens : u.Opens r.id)
    (named : Display.exportName u.visit.now = .ok name) :
    ShowsOpened (openingElements ++ .source (.text r.code) (.text r.language)
      :: shownResult u.visit.filter r.toJson.renderIndented name r .zero) (site.desk u).drawn :=
  visit_ends (drawPage_opening fair.healthy (fair.edit (h.tidy u.visitor)) h.ready.working keeps
    writable opens.pressed opens.wanted named)

/-- **What is shown of an analysis and of its record.**  An analysis by one visitor is shown from
the record that is made of it, with the tally of its report.  Whoever opens that record later, any
number of turns by any visitors in between, is shown the same record, with a tally of zeros. -/
theorem opened_shows_record (new : site.IsNew) {total : Nat} (few : total < 2 ^ 63)
    (years : site.archive.clock.InYears total) {before : List Turn}
    (fair : ∀ turn ∈ before ++ [t], turn.Fair) (room : before.length < total)
    (analyses : (site.after before).Analyses t code language)
    (named : Display.exportName t.visit.now = .ok name) :
    ∃ r, r = Record.ofReport r.id code language.name (Report.analyze code language.name)
        (site.after before).archive.clock.now ∧
      ShowsResult (shownResult t.visit.filter
        (answerOf r.id language.name (Report.analyze code language.name)).renderIndented name r
        (Report.analyze code language.name).tally) ((site.after before).desk t).drawn ∧
      ∀ (between : List Turn) (u : Turn), (∀ turn ∈ between ++ [u], turn.Fair) →
        before.length + between.length + 2 ≤ total → u.Opens r.id →
        ∀ name, Display.exportName u.visit.now = .ok name →
        ShowsOpened (openingElements ++ .source (.text code) (.text language.name)
            :: shownResult u.visit.filter r.toJson.renderIndented name r .zero)
          ((((site.after before).next t).after between).desk u).drawn := by
  obtain ⟨count, rfl⟩ : ∃ count, total = before.length + (count + 1) :=
    ⟨total - before.length - 1, by omega⟩
  rw [List.forall_mem_append, List.forall_mem_singleton] at fair
  -- the analysis is taken, whatever has come before it
  obtain ⟨hsound, -⟩ := (new.sound (by omega) years).after fair.1
  obtain ⟨r, hrecord, -, hwritable, hkeeps, hshown⟩ := hsound.analysis fair.2 analyses named
  refine ⟨r, hrecord, hshown, fun between u hfair hroom opens name named => ?_⟩
  rw [List.forall_mem_append, List.forall_mem_singleton] at hfair
  -- its record is still there when it is opened
  obtain ⟨rest, rfl⟩ : ∃ rest, count = between.length + rest := ⟨count - between.length, by omega⟩
  obtain ⟨hlater, hkept⟩ := (hsound.next fair.2).after hfair.1
  have hopened := hlater.opening hfair.2 (hkept r hkeeps) hwritable opens named
  have hcode : r.code = code := by rw [hrecord]; rfl
  have hlanguage : r.language = language.name := by rw [hrecord]; rfl
  rwa [hcode, hlanguage] at hopened

/-- **The values over an analysis and over its record**, which is opened in the next turn, agree
only where nothing has been found. -/
theorem Site.Sound.metrics_agree_iff (h : site.Sound (count + 1)) (fair : t.Fair)
    (analyses : site.Analyses t code language) (named : Display.exportName t.visit.now = .ok name)
    {last : Int} (hlast : site.archive.store.LastNumber last) (hu : u.Fair)
    (opens : u.Opens (last + 1)) {name' : String}
    (named' : Display.exportName u.visit.now = .ok name') :
    ∃ shown opened, ShowsResult shown (site.desk t).drawn ∧
      ShowsOpened opened ((site.next t).desk u).drawn ∧
      (metrics shown = metrics opened ↔ (Report.analyze code language.name).findings = []) := by
  obtain ⟨r, -, hnumber, hwritable, hkeeps, hshown⟩ := h.analysis fair analyses named
  have hopened := (h.next fair).opening hu hkeeps hwritable (hnumber last hlast ▸ opens) named'
  refine ⟨_, _, hshown, hopened, ?_⟩
  show _ = metrics (shownResult u.visit.filter r.toJson.renderIndented name' r .zero) ↔ _
  rw [metrics_shownResult, metrics_shownResult, shownValues_inj, Report.tally_analyze,
    Tally.ofFindings_eq_zero_iff]

/-! ## 4. A run of two turns -/

/-- A turn of the only visitor at a service that is there, with a button pressed and a number
entered. -/
def turnBy (typed : Option String) (picked : Option Language) (button : String) (id : Int) : Turn :=
  ⟨0, typed, picked, ⟨some button, none, .int id, none, fun _ => none, .whole 0⟩⟩

/-- A line of source is analysed. -/
def firstTurn : Turn := turnBy (some "var x = 1;") (some .javascript) "Analyze Code" 1

/-- A record is opened. -/
def secondTurn (id : Int) : Turn := turnBy none none "Load" id

/-- A site that nobody has visited yet. -/
def newSite : Site := ⟨fun _ => .empty, ⟨.memory .empty, ⟨fun _ => 0, 0⟩⟩⟩

theorem isNew_newSite : newSite.IsNew := ⟨fun _ => rfl, .inl rfl⟩

theorem inYears_newSite (count : Nat) : newSite.archive.clock.InYears count := by
  intro k _
  show 1 ≤ (Time.Stamp.ofInstant 0).date.year ∧ (Time.Stamp.ofInstant 0).date.year ≤ 9999
  decide

theorem fair_firstTurn : firstTurn.Fair := by
  refine ⟨⟨rfl, fun _ => rfl⟩, fun code h => ?_⟩
  obtain rfl : "var x = 1;" = code := Option.some.inj h
  exact Numeral.short_of_lt (by decide)

theorem fair_secondTurn (id : Int) : (secondTurn id).Fair := ⟨⟨rfl, fun _ => rfl⟩, nofun⟩

theorem analyses_firstTurn {site : Site} : site.Analyses firstTurn "var x = 1;" .javascript := by
  refine ⟨rfl, ⟨?_, ?_⟩, by decide⟩
  · simp [Site.session, Turn.edit, firstTurn, turnBy, Session.get?_set_of_ne]
  · simp [Site.session, Turn.edit, firstTurn, turnBy]

theorem opens_secondTurn (id : Int) : (secondTurn id).Opens id := ⟨rfl, rfl⟩

/-- The name of an export at the time of both turns. -/
theorem named_turnBy (typed : Option String) (picked : Option Language) (button : String)
    (id : Int) : Display.exportName (turnBy typed picked button id).visit.now =
      .ok ("code-analysis-" ++ Numeral.text 0 ++ ".json") :=
  Display.exportName_whole (Numeral.short_of_lt (by decide))

/-- A line is analysed, and its record is opened in the next turn. -/
theorem opened_shows_record_of_two :
    let report := Report.analyze "var x = 1;" "javascript"
    let name := "code-analysis-" ++ Numeral.text 0 ++ ".json"
    ∃ r, r = Record.ofReport r.id "var x = 1;" "javascript" report newSite.archive.clock.now ∧
      ShowsResult (shownResult none (answerOf r.id "javascript" report).renderIndented name r
        report.tally) (newSite.desk firstTurn).drawn ∧
      ShowsOpened (openingElements ++ .source (.text "var x = 1;") (.text "javascript")
        :: shownResult none r.toJson.renderIndented name r .zero)
        ((newSite.next firstTurn).desk (secondTurn r.id)).drawn := by
  have hfair : ∀ turn ∈ [] ++ [firstTurn], turn.Fair := by
    simpa using fair_firstTurn
  have hanalyses : (newSite.after []).Analyses firstTurn "var x = 1;" .javascript := by
    rw [Site.after_nil]
    exact analyses_firstTurn
  have hfew : 2 < 2 ^ 63 := by decide
  have hroom : ([] : List Turn).length < 2 := by decide
  obtain ⟨r, hrecord, hshown, hopened⟩ := opened_shows_record isNew_newSite hfew
    (inYears_newSite 2) hfair hroom hanalyses (named_turnBy _ _ _ _)
  have hnext : ∀ turn ∈ [] ++ [secondTurn r.id], turn.Fair := by
    simpa using fair_secondTurn r.id
  have hopened := hopened [] (secondTurn r.id) hnext (Nat.le_refl 2) (opens_secondTurn r.id) _
    (named_turnBy _ _ _ _)
  rw [Site.after_nil] at hrecord hshown
  rw [Site.after_nil, Site.after_nil] at hopened
  exact ⟨r, hrecord, hshown, hopened⟩

/-- **An analysis and its record do not show the same counts**: over the record of a line, none of
the issues below is counted. -/
theorem opened_counts_differ :
    ∃ shown opened, ShowsResult shown (newSite.desk firstTurn).drawn ∧
      ShowsOpened opened ((newSite.next firstTurn).desk (secondTurn 1)).drawn ∧
      metrics shown ≠ metrics opened := by
  have hsound : newSite.Sound 2 := isNew_newSite.sound (by decide) (inYears_newSite 2)
  have hfound : (Report.analyze "var x = 1;" Language.javascript.name).findings ≠ [] := by
    decide +kernel
  obtain ⟨shown, opened, hshown, hopened, hagree⟩ := hsound.metrics_agree_iff fair_firstTurn
    analyses_firstTurn (named_turnBy _ _ _ _) isNew_newSite.2.lastNumber (fair_secondTurn 1)
    (opens_secondTurn 1) (named_turnBy _ _ _ _)
  exact ⟨shown, opened, hshown, hopened, fun heq => hfound (hagree.mp heq)⟩

end Critique.Page
