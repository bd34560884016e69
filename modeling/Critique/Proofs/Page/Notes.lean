/-
# What a session amounts to

A session is values by name, with an action among them that may wait for the next drawing.  To the
visitor it is less than that: a source and a language in the editor, a result, and a source that was
saved with its language, if one was.  These are the `Notes`, and on notes the buttons do what they
say at once (`Notes.press`).

This module says which notes a session stands for.  A session that has not been drawn yet reads as
the notes of a new visitor, whatever it lacks (`Session.Reads`); once it has been drawn, everything
stands under its name and no action waits (`Session.Settled`).  In between, *Restore* and *Clear*
leave an action, and the action does to the session what the button does to the notes.

* `Reads.runPending`: where no action waits, a drawing settles what the session reads as;
* `Reads.runPending_restore` and `Reads.runPending_clear`: the two actions that may wait.
-/
import Critique.Proofs.Page.Editor

namespace Critique

open Page

/-- A label names one language. -/
theorem Language.label_injective : Function.Injective Language.label := by
  intro l m h
  exact Option.some.inj (by rw [← ofLabel?_label l, h, ofLabel?_label])

/-! ## 1. Notes -/

namespace Page

/-- What a session amounts to: the source and the language in the editor, the result, and what was
saved. -/
structure Notes where
  code : String
  language : Language
  result : Json
  saved : Option (String × Language)

namespace Notes

/-- The notes of a new visitor. -/
def new : Notes := ⟨sample, .python, .null, none⟩

/-- Notes with what was typed and picked. -/
def edit (n : Notes) (typed : Option String) (picked : Option Language) : Notes :=
  { n with code := typed.getD n.code, language := picked.getD n.language }

/-- What a button does to notes; `answer` is the result of an analysis. -/
def press (n : Notes) (answer : Json) : Option String → Notes
  | some "Analyze Code" => { n with result := answer }
  | some "Save" => { n with saved := some (n.code, n.language) }
  | some "Restore" => n.saved.elim n fun saved => { n with code := saved.1, language := saved.2 }
  | some "Clear" => { n with code := "", result := .null }
  | _ => n

@[simp] theorem press_none (n : Notes) (answer : Json) : n.press answer none = n := rfl

/-- An analysis without an answer changes nothing, and no other button asks for one. -/
theorem press_idle {n : Notes} {pressed : Option String} (hsave : pressed ≠ some "Save")
    (hclear : pressed ≠ some "Clear") (hrestore : pressed = some "Restore" → n.saved = none) :
    n.press n.result pressed = n := by
  unfold press
  split
  · rfl
  · exact absurd rfl hsave
  · rw [hrestore rfl]
    rfl
  · exact absurd rfl hclear
  · rfl

/-- What was saved is restored. -/
theorem press_restore {n : Notes} {code : String} {language : Language}
    (h : n.saved = some (code, language)) (answer : Json) :
    n.press answer (some "Restore") = { n with code := code, language := language } := by
  obtain ⟨_, _, _, saved⟩ := n
  obtain rfl : saved = some (code, language) := h
  rfl

/-- Only one button changes what is saved. -/
theorem press_saved {n : Notes} {pressed : Option String} (hsave : pressed ≠ some "Save")
    (answer : Json) : (n.press answer pressed).saved = n.saved := by
  unfold press
  split
  · rfl
  · exact absurd rfl hsave
  · cases h : n.saved with
    | none => rw [Option.elim_none, h]
    | some saved => rfl
  · rfl
  · rfl

end Notes

end Page

/-! ## 2. Sessions -/

namespace Session

/-- The session stands for the notes: what it lacks is what a drawing fills in, and no action
waits. -/
structure Reads (s : Session) (n : Notes) : Prop where
  editing : s.Editing n.code n.language
  result : (s.get? "result").getD .null = n.result
  saved : s.get? "saved" = n.saved.map fun saved => savedValue saved.1 saved.2
  idle : s.get? "pending_action" = none

/-- The session has been drawn, and stands for the notes. -/
structure Settled (s : Session) (n : Notes) : Prop extends s.Reads n where
  present : ∀ name ∈ ["code", "language_label", "result"], s.has name = true

variable {s : Session} {n : Notes}

/-- What stands in the editor stands in the notes. -/
theorem Reads.of_editing (h : s.Reads n) {code : String} {language : Language}
    (editing : s.Editing code language) : n.code = code ∧ n.language = language :=
  ⟨Json.text.inj (h.editing.code.symm.trans editing.code),
    Language.label_injective (Json.text.inj (h.editing.label.symm.trans editing.label))⟩

theorem reads_empty : empty.Reads .new := ⟨⟨rfl, rfl⟩, rfl, rfl, rfl⟩

/-- A value that is there is the one that is read, whatever would be filled in for it. -/
theorem get?_of_has {name : String} {value missing : Json} (h : s.has name = true)
    (hread : (s.get? name).getD missing = value) : s.get? name = some value := by
  obtain ⟨found, hfound⟩ := Option.isSome_iff_exists.mp h
  rw [hfound] at hread ⊢
  exact congrArg some hread

theorem Settled.code (h : s.Settled n) : s.get? "code" = some (.text n.code) :=
  get?_of_has (h.present _ (by simp)) h.editing.code

theorem Settled.label (h : s.Settled n) :
    s.get? "language_label" = some (.text n.language.label) :=
  get?_of_has (h.present _ (by simp)) h.editing.label

theorem Settled.shown (h : s.Settled n) : s.get? "result" = some n.result :=
  get?_of_has (h.present _ (by simp)) h.result

/-- Something is saved exactly if the notes say so. -/
theorem Reads.has_saved (h : s.Reads n) : s.has "saved" = n.saved.isSome := by
  rw [has, h.saved, Option.isSome_map]

/-! ## 3. Changes of one value -/

theorem has_set {name other : String} (h : s.has other = true) (value : Json) :
    (s.set name value).has other = true := by
  by_cases heq : other = name
  · rw [heq, has, get?_set]
    rfl
  · rwa [has, get?_set_of_ne s heq]

theorem Reads.set_code (h : s.Reads n) (code : String) :
    (s.set "code" (.text code)).Reads { n with code := code } := by
  constructor
  · exact ⟨by simp, by rw [get?_set_of_ne s (by decide), h.editing.label]⟩
  · rw [get?_set_of_ne s (by decide), h.result]
  · rw [get?_set_of_ne s (by decide), h.saved]
  · rw [get?_set_of_ne s (by decide), h.idle]

theorem Reads.set_label (h : s.Reads n) (language : Language) :
    (s.set "language_label" (.text language.label)).Reads { n with language := language } := by
  constructor
  · exact ⟨by rw [get?_set_of_ne s (by decide), h.editing.code], by simp⟩
  · rw [get?_set_of_ne s (by decide), h.result]
  · rw [get?_set_of_ne s (by decide), h.saved]
  · rw [get?_set_of_ne s (by decide), h.idle]

theorem Reads.set_result (h : s.Reads n) (result : Json) :
    (s.set "result" result).Reads { n with result := result } := by
  constructor
  · constructor
    · rw [get?_set_of_ne s (by decide), h.editing.code]
    · rw [get?_set_of_ne s (by decide), h.editing.label]
  · rw [get?_set, Option.getD_some]
  · rw [get?_set_of_ne s (by decide), h.saved]
  · rw [get?_set_of_ne s (by decide), h.idle]

theorem Reads.set_saved (h : s.Reads n) (code : String) (language : Language) :
    (s.set "saved" (savedValue code language)).Reads { n with saved := some (code, language) } := by
  constructor
  · constructor
    · rw [get?_set_of_ne s (by decide), h.editing.code]
    · rw [get?_set_of_ne s (by decide), h.editing.label]
  · rw [get?_set_of_ne s (by decide), h.result]
  · rw [get?_set]
    rfl
  · rw [get?_set_of_ne s (by decide), h.idle]

theorem Settled.set_result (h : s.Settled n) (result : Json) :
    (s.set "result" result).Settled { n with result := result } :=
  ⟨h.toReads.set_result result, fun name hname => has_set (h.present name hname) result⟩

theorem Settled.set_saved (h : s.Settled n) :
    (s.set "saved" (savedValue n.code n.language)).Settled
      { n with saved := some (n.code, n.language) } :=
  ⟨h.toReads.set_saved n.code n.language, fun name hname => has_set (h.present name hname) _⟩

/-- An action that was left and is taken out again has changed nothing else. -/
theorem Reads.forget_pending (h : s.Reads n) (action : Json) :
    ((s.set "pending_action" action).forget "pending_action").Reads n := by
  have hget : ∀ name ≠ "pending_action",
      ((s.set "pending_action" action).forget "pending_action").get? name = s.get? name := by
    intro name hname
    rw [get?_forget_of_ne _ hname, get?_set_of_ne s hname]
  constructor
  · exact ⟨by rw [hget _ (by decide), h.editing.code], by rw [hget _ (by decide), h.editing.label]⟩
  · rw [hget _ (by decide), h.result]
  · rw [hget _ (by decide), h.saved]
  · exact get?_forget _ _

/-! ## 4. The beginning of a drawing -/

/-- **A drawing settles what the session reads as.** -/
theorem Reads.fillIn (h : s.Reads n) : (s.fillIn sample).Settled n := by
  obtain ⟨hcode, hlabel⟩ := h.editing.fillIn
  have hresult : (s.fillIn sample).get? "result" = some n.result := by
    rw [Session.fillIn, get?_setIfMissing, get?_setIfMissing_of_ne _ (by decide),
      get?_setIfMissing_of_ne _ (by decide), h.result]
  have hother : ∀ name ∉ ["code", "language_label", "result"],
      (s.fillIn sample).get? name = s.get? name := by
    intro name hname
    simp only [List.mem_cons, List.not_mem_nil, or_false, not_or] at hname
    rw [Session.fillIn, get?_setIfMissing_of_ne _ hname.2.2, get?_setIfMissing_of_ne _ hname.2.1,
      get?_setIfMissing_of_ne _ hname.1]
  refine ⟨⟨⟨?_, ?_⟩, ?_, ?_, ?_⟩, ?_⟩
  · rw [hcode, Option.getD_some]
  · rw [hlabel, Option.getD_some]
  · rw [hresult, Option.getD_some]
  · rw [hother _ (by decide), h.saved]
  · rw [hother _ (by decide), h.idle]
  · simp [has, hcode, hlabel, hresult]

/-- What waits is run before anything is filled in. -/
theorem runPending_queued {action : Json} {after : Session}
    (hrun : ((s.set "pending_action" action).forget "pending_action").run action =
      (.ok (), after)) :
    (s.set "pending_action" action).runPending sample = (.ok action, after.fillIn sample) := by
  rw [Session.runPending, get?_set, Option.getD_some, hrun]

/-- Where no action waits, nothing is run. -/
theorem Reads.runPending (h : s.Reads n) :
    ∃ after, s.runPending sample = (.ok .null, after) ∧ after.Settled n := by
  obtain ⟨hrun, hediting⟩ := h.editing.runPending h.idle
  refine ⟨_, hrun, Reads.fillIn ⟨hediting, ?_, ?_, ?_⟩⟩
  · rw [get?_forget_of_ne s (by decide), h.result]
  · rw [get?_forget_of_ne s (by decide), h.saved]
  · exact get?_forget _ _

/-- **The action that restores**: it puts what was saved back into the editor. -/
theorem Reads.runPending_restore (h : s.Reads n) {code : String} {language : Language}
    (hsaved : n.saved = some (code, language)) :
    ∃ after, (s.set "pending_action" (.text "restore")).runPending sample =
        (.ok (.text "restore"), after) ∧
      after.Settled { n with code := code, language := language } := by
  have hforget := h.forget_pending (.text "restore")
  generalize hbetween : (s.set "pending_action" (.text "restore")).forget "pending_action" = between
    at hforget
  have hvalue : between.get? "saved" = some (savedValue code language) := by
    rw [hforget.saved, hsaved]
    rfl
  have hlabel : labelFor (.text language.name) = language.label := Language.labelOf_name language
  have hrun : between.run (.text "restore") =
      (.ok (), (between.set "code" (.text code)).set "language_label" (.text language.label)) := by
    rw [← hlabel, Session.run, hvalue]
    rfl
  exact ⟨_, runPending_queued (hbetween ▸ hrun),
    ((hforget.set_code code).set_label language).fillIn⟩

/-- **The action that clears**: it empties the editor and forgets the result. -/
theorem Reads.runPending_clear (h : s.Reads n) :
    ∃ after, (s.set "pending_action" (.text "clear")).runPending sample =
        (.ok (.text "clear"), after) ∧
      after.Settled { n with code := "", result := .null } :=
  ⟨_, runPending_queued rfl, (((h.forget_pending _).set_code "").set_result .null).fillIn⟩

end Session

end Critique
