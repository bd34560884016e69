/-
# Failures as a client reads them

A reply whose status is none of the two hundreds is a failure, and the client makes an error of it
that carries the status and a message.  The message is the `message` member of the reply, or its
text, or its status in words (`Reply.Worded`); every reply has one of these and no other.  A member
that has half of a surrogate pair in it is left out (`Reply.Halved`): there is such an error for it
as well, but no `String` is its wording, and the one that is shown has a replacement in it.

The client finds the member by reading the text as JSON and looking into the value.  A text that is
no JSON is caught, and is its own message.  Two kinds of texts are not, so that what comes out is an
error of another kind, which carries no status: a value without members, such as a list or a number,
and a value that lies too deep to be read.  On all other texts (`Legible`) the client does what is
said of it, whatever the status is, and however much room there is for what lies in one another.

* `Worded.unique` and `worded_or_halved`: every reply has one message;
* `message_of_legible`: the client finds the message of a legible text;
* `message_of_illegible`: and what it comes to in the others;
* `read_failure`: what a failure is read as;
* `read_failure_list`: a failure of which the text is a list carries neither status nor message.
-/
import Critique.Client
import Critique.Proofs.Json.RoundTrip

namespace Critique

/-! ## 1. Messages -/

namespace Reply

/-- The text of a reply is an object whose `message` counts as true. -/
def Says (room : Nat) (r : Reply) (member : Json) : Prop :=
  ∃ members, Json.read r.text room = .ok (.object members) ∧
    Entries.find? (.text "message") members = some member ∧ member.truthy = true

/-- What a reply says has half of a surrogate pair in it. -/
def Halved (room : Nat) (r : Reply) : Prop :=
  ∃ codePoints, r.Says room (.broken codePoints)

/-- The message of a reply: what it says, else its text, else its status in words. -/
inductive Worded (room : Nat) (r : Reply) : String → Prop
  | said {member : Json} (h : r.Says room member) (whole : ¬ r.Halved room) :
      Worded room r member.display
  | text (silent : ∀ member, ¬ r.Says room member) (h : r.text ≠ "") : Worded room r r.text
  | status (silent : ∀ member, ¬ r.Says room member) (h : r.text = "") :
      Worded room r ("HTTP " ++ Numeral.text r.status)

variable {room : Nat} {r : Reply}

/-- A reply says one thing at most. -/
theorem Says.unique {a b : Json} (ha : r.Says room a) (hb : r.Says room b) : a = b := by
  obtain ⟨members, hread, hfound, -⟩ := ha
  obtain ⟨members', hread', hfound', -⟩ := hb
  obtain rfl : members = members' := by simpa [hread] using hread'
  exact Option.some.inj (hfound.symm.trans hfound')

/-- **A reply has one message at most.** -/
theorem Worded.unique {a b : String} (ha : r.Worded room a) (hb : r.Worded room b) : a = b := by
  cases ha with
  | said h _ =>
    cases hb with
    | said h' _ => rw [h.unique h']
    | text silent _ => exact absurd h (silent _)
    | status silent _ => exact absurd h (silent _)
  | text silent h =>
    cases hb with
    | said h' _ => exact absurd h' (silent _)
    | text _ _ => rfl
    | status _ h' => exact absurd h' h
  | status silent h =>
    cases hb with
    | said h' _ => exact absurd h' (silent _)
    | text _ h' => exact absurd h h'
    | status _ _ => rfl

/-- A reply that says nothing has its text for a message, or its status. -/
theorem worded_words (silent : ∀ member, ¬ r.Says room member) : r.Worded room r.words := by
  unfold words
  split
  · next h => exact .status silent h
  · next h => exact .text silent h

/-- **Every reply has a message**, but for half of a pair. -/
theorem worded_or_halved (room : Nat) (r : Reply) :
    (∃ message, r.Worded room message) ∨ r.Halved room := by
  by_cases hhalved : r.Halved room
  · exact .inr hhalved
  by_cases h : ∃ member, r.Says room member
  · obtain ⟨member, hsaid⟩ := h
    exact .inl ⟨_, .said hsaid hhalved⟩
  · exact .inl ⟨_, worded_words fun member hsaid => h ⟨member, hsaid⟩⟩

/-! ## 2. Texts that can be looked into -/

/-- A text into which a client can look for a message: an object, or no JSON. -/
inductive Legible (room : Nat) (text : String) : Prop
  | object {members : List (Json.Key × Json)} (h : Json.read text room = .ok (.object members))
  | malformed {flaw : Json.Flaw} {offset line column : Nat}
      (h : Json.read text room = .error (.malformed flaw offset line column))
  | numeral {flaw : Numeral.Flaw} (h : Json.read text room = .error (.numeral flaw))

/-- What a client comes to where it looks into another text. -/
inductive Stumbles (room : Nat) (text : String) : ClientError → Prop
  | memberless {value : Json} (h : Json.read text room = .ok value)
      (other : ∀ members, value ≠ .object members) :
      Stumbles room text (.unusable (.lacks value.kind "get"))
  | deep {container : Json.Container} (h : Json.read text room = .error (.deep container)) :
      Stumbles room text (.unreadable (.deep container))

/-- What is read of an empty text. -/
theorem read_empty (room : Nat) : Json.read "" room = .error (.malformed .value 0 1 1) := by
  cases room <;> rfl

/-- A text that is JSON is not empty. -/
theorem text_ne_empty {value : Json} (h : Json.read r.text room = .ok value) : r.text ≠ "" := by
  intro hempty
  rw [hempty, read_empty] at h
  exact absurd h (by simp)

/-- A text that is no JSON says nothing. -/
theorem silent_of_error {error : Json.ReadError} (h : Json.read r.text room = .error error) :
    ∀ member, ¬ r.Says room member := by
  rintro member ⟨members, hobject, -⟩
  exact absurd (h.symm.trans hobject) (by simp)

/-- The message of an object is its member, if that counts as true, and else its text. -/
theorem message_object {members : List (Json.Key × Json)}
    (h : Json.read r.text room = .ok (.object members)) :
    ∃ message, (r.Worded room message ∨ r.Halved room) ∧ r.message room = .ok message := by
  have hmessage : r.message room =
      .ok (if ((Entries.find? (.text "message") members).getD .null).truthy
        then ((Entries.find? (.text "message") members).getD .null).display else r.text) := by
    rw [message, h]
    rfl
  rw [hmessage]
  split
  · next htruthy =>
    -- a missing member is null, which does not count as true
    cases hfound : Entries.find? (.text "message") members with
    | none =>
      rw [hfound] at htruthy
      exact absurd htruthy (by decide)
    | some member =>
      rw [hfound] at htruthy
      have hsaid : r.Says room member := ⟨members, h, hfound, htruthy⟩
      by_cases hhalved : r.Halved room
      · exact ⟨_, .inr hhalved, rfl⟩
      · exact ⟨_, .inl (.said hsaid hhalved), rfl⟩
  · next hfalsy =>
    refine ⟨_, .inl (.text ?_ (text_ne_empty h)), rfl⟩
    rintro member ⟨members', hread, hfound, htruthy⟩
    obtain rfl : members = members' := by simpa [h] using hread
    rw [hfound] at hfalsy
    exact hfalsy htruthy

/-- **The client finds the message of a legible text.** -/
theorem message_of_legible (h : Legible room r.text) :
    ∃ message, (r.Worded room message ∨ r.Halved room) ∧ r.message room = .ok message := by
  cases h with
  | object hread => exact message_object hread
  | malformed hread =>
    refine ⟨r.words, .inl (worded_words (silent_of_error hread)), ?_⟩
    rw [message, hread]
  | numeral hread =>
    refine ⟨r.words, .inl (worded_words (silent_of_error hread)), ?_⟩
    rw [message, hread]

theorem get_of_ne_object {value : Json} (h : ∀ members, value ≠ .object members) (name : String) :
    value.get name = .error (.lacks value.kind "get") := by
  cases value with
  | object members => exact absurd rfl (h members)
  | _ => rfl

/-- **On any other text the client stumbles.** -/
theorem message_of_illegible (h : ¬ Legible room r.text) :
    ∃ error, Stumbles room r.text error ∧ r.message room = .error error := by
  cases hread : Json.read r.text room with
  | ok value =>
    have hother : ∀ members, value ≠ .object members := by
      rintro members rfl
      exact h (.object hread)
    refine ⟨_, .memberless hread hother, ?_⟩
    rw [message, hread]
    simp only [Json.getD, get_of_ne_object hother, Except.map]
  | error error =>
    cases error with
    | malformed flaw offset line column => exact absurd (.malformed hread) h
    | numeral flaw => exact absurd (.numeral hread) h
    | deep container =>
      refine ⟨_, .deep hread, ?_⟩
      rw [message, hread]

/-- The status of a reply is one of the two hundreds. -/
theorem isSuccess_iff : r.isSuccess = true ↔ 200 ≤ r.status ∧ r.status ≤ 299 := by
  rw [isSuccess, beq_iff_eq, Int.fdiv_eq_ediv_of_nonneg _ (by decide)]
  omega

end Reply

/-! ## 3. Failures -/

namespace Question

/-- A record is asked for, and there is none. -/
def Missing (q : Question) (r : Reply) : Prop :=
  (∃ id, q = .analysis id) ∧ r.status = 404

variable {q : Question} {r : Reply}

theorem read_missing (h : q.Missing r) (room : Nat) : q.read (.ok r) room = .ok .null := by
  obtain ⟨⟨id, rfl⟩, hstatus⟩ := h
  exact if_pos hstatus

/-- Every other reply is checked, but for the one that tells of the health of the service. -/
theorem read_of_not_missing (asked : q ≠ .health) (h : ¬ q.Missing r) (room : Nat) :
    q.read (.ok r) room = r.check room := by
  cases q with
  | health => exact absurd rfl asked
  | analyze code language => rfl
  | analysis id => exact if_neg fun hstatus => h ⟨⟨id, rfl⟩, hstatus⟩
  | recent limit => rfl

/-- **What a failure is read as.**  A record that is not there is null.  Every other failure becomes
an error with the status and the message of the reply, if its text is legible, whatever the status
is; and if it is not, what the client comes to is all there is. -/
theorem read_failure (asked : q ≠ .health) (failed : ¬ (200 ≤ r.status ∧ r.status ≤ 299))
    (room : Nat) :
    (q.Missing r → q.read (.ok r) room = .ok .null) ∧
    (¬ q.Missing r → Reply.Legible room r.text →
      ∃ message, (r.Worded room message ∨ r.Halved room) ∧
        q.read (.ok r) room = .error (.answered message r.status)) ∧
    (¬ q.Missing r → ¬ Reply.Legible room r.text →
      ∃ error, Reply.Stumbles room r.text error ∧ q.read (.ok r) room = .error error) := by
  have hfailed : ¬ r.isSuccess = true := fun h => failed (Reply.isSuccess_iff.mp h)
  refine ⟨fun h => read_missing h room, ?_, ?_⟩
  · intro hfound hlegible
    obtain ⟨message, hworded, hmessage⟩ := Reply.message_of_legible hlegible
    refine ⟨message, hworded, ?_⟩
    rw [read_of_not_missing asked hfound, Reply.check, if_neg hfailed, hmessage]
  · intro hfound hillegible
    obtain ⟨error, hstumbles, hmessage⟩ := Reply.message_of_illegible hillegible
    refine ⟨error, hstumbles, ?_⟩
    rw [read_of_not_missing asked hfound, Reply.check, if_neg hfailed, hmessage]

/-- The text of a failure that says what is wrong. -/
def gone : String :=
  Json.render (.object [("message", .text "gone")])

theorem read_gone : Json.read gone = .ok (.object [("message", .text "gone")]) := by
  have hreadable : Json.Readable (984 + 1) (.object [("message", .text "gone")]) := by
    refine .object (by simp) (by simp) ?_
    simp only [List.forall_mem_cons, List.not_mem_nil, false_imp_iff, implies_true, and_true]
    exact .text "gone"
  exact Json.read_render hreadable

theorem read_list : Json.read "[]" = .ok (.list []) := by
  cbv

/-- A failure with a message, one of which the text is a list, and a record that is not there. -/
theorem read_failure_cases :
    (Question.recent (.int 10) ≠ .health ∧ ¬ ((200 : Int) ≤ 500 ∧ (500 : Int) ≤ 299) ∧
      ¬ (Question.recent (.int 10)).Missing ⟨500, gone⟩ ∧ Reply.Legible Json.nestingLimit gone ∧
      (Question.recent (.int 10)).read (.ok ⟨500, gone⟩) = .error (.answered "gone" 500)) ∧
    (¬ Reply.Legible Json.nestingLimit "[]" ∧
      (Question.recent (.int 10)).read (.ok ⟨500, "[]"⟩) =
        .error (.unusable (.lacks "list" "get"))) ∧
    ((Question.analysis (.int 1)).Missing ⟨404, "[]"⟩ ∧
      (Question.analysis (.int 1)).read (.ok ⟨404, "[]"⟩) = .ok .null) := by
  have hasked : Question.recent (.int 10) ≠ .health := by simp
  have hfailed : ¬ ((200 : Int) ≤ 500 ∧ (500 : Int) ≤ 299) := by decide
  have hfound : ∀ text, ¬ (Question.recent (.int 10)).Missing ⟨500, text⟩ := by
    rintro text ⟨-, hstatus⟩
    exact absurd (show (500 : Int) = 404 from hstatus) (by decide)
  have hlegible : Reply.Legible Json.nestingLimit gone := .object read_gone
  have hillegible : ¬ Reply.Legible Json.nestingLimit "[]" := by
    rintro (h | h | h) <;> exact absurd (read_list.symm.trans h) (by simp)
  have hmissing : (Question.analysis (.int 1)).Missing ⟨404, "[]"⟩ := ⟨⟨_, rfl⟩, rfl⟩
  refine ⟨⟨hasked, hfailed, hfound gone, hlegible, ?_⟩, ⟨hillegible, ?_⟩, hmissing,
    (read_failure (r := ⟨404, "[]"⟩) (by simp) (by decide) _).1 hmissing⟩
  · obtain ⟨message, hworded, hread⟩ :=
      (read_failure (r := ⟨500, gone⟩) hasked hfailed _).2.1 (hfound gone) hlegible
    have hsaid : Reply.Says Json.nestingLimit ⟨500, gone⟩ (.text "gone") :=
      ⟨_, read_gone, rfl, rfl⟩
    have hwhole : ¬ Reply.Halved Json.nestingLimit ⟨500, gone⟩ := by
      rintro ⟨codePoints, hhalf⟩
      exact absurd (hsaid.unique hhalf) (by simp)
    rw [hread, (hworded.resolve_right hwhole).unique (.said hsaid hwhole)]
    rfl
  · obtain ⟨error, hstumbles, hread⟩ :=
      (read_failure (r := ⟨500, "[]"⟩) hasked hfailed _).2.2 (hfound "[]") hillegible
    rw [hread]
    cases hstumbles with
    | memberless h =>
      obtain rfl := Except.ok.inj (read_list.symm.trans h)
      rfl
    | deep h => exact absurd (read_list.symm.trans h) (by simp)

/-- **A failure of which the text is a list** becomes an error with neither the status nor a
message. -/
theorem read_failure_list :
    ¬ ∃ message, (Question.analyze (.text "var x = 1;") (.text "javascript")).read
      (.ok ⟨500, "[]"⟩) = .error (.answered message 500) := by
  rintro ⟨message, hread⟩
  have hmessage : Reply.message ⟨500, "[]"⟩ = .error (.unusable (.lacks "list" "get")) := by
    rw [Reply.message, read_list]
    rfl
  rw [read, Reply.check, hmessage] at hread
  · exact absurd hread (by simp [Reply.isSuccess])
  · simp
  · simp

end Question

end Critique
