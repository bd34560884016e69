/-
# The operations on a server

What each operation does on a server that holds a ledger.  The making of a record is opened once
(`create_cases`): the count is refused and nothing changes, or the batch is refused and the ledger
gets a gap, or both are taken and the ledger gets the record.  Whatever holds of a server over its
whole life is read off these three cases.

The reading operations are equations: the record of a number is the one in the ledger, and the
latest records are those of the ledger from its end.  The positions that the server takes are those
of sixty-four bits, so a limit beyond them is cut before it is sent; this changes nothing as long as
there are fewer records than that (`highest_clamp`).

* `create_cases`: all that the making of a record can do;
* `get_eq` and `recent_eq`: what the reading operations answer.
-/
import Critique.Proofs.Store.Ledger

namespace Critique.Remote

variable {s : Server} {l : Ledger}

/-! ## 1. Making a record -/

theorem countUp_refused {error : StoreError} (h : s.permit .countUp = .error error) (key : String) :
    s.countUp key = .error error := by
  rw [Server.countUp, h]
  rfl

/-- The count answers the next number. -/
theorem countUp_eq (h : Holds s l) (room : l.length + 1 < 2 ^ 64)
    (permitted : s.permit .countUp = .ok ()) :
    s.countUp counterKey =
      .ok (((l.length + 1 : Nat) : Int),
        s.setText counterKey (Numeral.text (l.length + 1 : Nat))) := by
  have hread : Numeral.read (Numeral.text l.length) = .ok (l.length : Int) :=
    Numeral.read_text (Numeral.short_of_lt (by omega))
  have hwritten : Numeral.writtenWithin (l.length + 1 : Nat) =
      .ok (Numeral.text (l.length + 1 : Nat)) :=
    Numeral.writtenWithin_of_le (Numeral.short_of_lt (by omega))
  rw [Server.countUp, permitted, h.count, hread]
  simp only [Except.mapError, bind, Except.bind, ← Int.natCast_succ, hwritten]
  rfl

/-- **A count answers one more than its key counted** and puts that under the key. -/
theorem countUp_ok {key : String} {number : Int} {s' : Server}
    (h : s.countUp key = .ok (number, s')) :
    ∃ n, Numeral.read ((s.text? key).getD "0") = .ok n ∧ number = n + 1 ∧
      Numeral.Short number ∧ s' = s.setText key (Numeral.text number) := by
  cases hpermit : s.permit .countUp with
  | error error =>
    rw [countUp_refused hpermit] at h
    exact absurd h (by simp)
  | ok =>
    rw [Server.countUp, hpermit] at h
    cases hread : Numeral.read ((s.text? key).getD "0") with
    | error cause => exact absurd h (by simp [hread, Except.mapError, bind, Except.bind])
    | ok n =>
      cases hwritten : Numeral.writtenWithin (n + 1) with
      | error cause =>
        exact absurd h (by simp [hread, hwritten, Except.mapError, bind, Except.bind])
      | ok text =>
        simp only [hread, hwritten, Except.mapError, bind, Except.bind, pure, Except.pure,
          Except.ok.injEq, Prod.mk.injEq] at h
        obtain ⟨hshort, rfl⟩ := Numeral.writtenWithin_ok hwritten
        exact ⟨n, rfl, h.1.symm, h.1 ▸ hshort, h.1 ▸ h.2.symm⟩

theorem commit_refused {error : StoreError} (h : s.permit .commit = .error error)
    (key text member : String) (score : Int) :
    s.commit key text member score = .error error := by
  rw [Server.commit, h]
  rfl

theorem commit_eq (permitted : s.permit .commit = .ok ()) (key text member : String) (score : Int) :
    s.commit key text member score = .ok ((s.setText key text).setScore member score) := by
  rw [Server.commit, permitted]
  rfl

/-- The number that a record made now is handed, if the count is not refused. -/
def handed? (s : Server) : Option Int :=
  (s.countUp counterKey).toOption.map Prod.fst

/-- What the making of a record has done to a server that holds a ledger: the number that was
handed out and the outcome, then the server, its ledger and the clock. -/
inductive Created (s : Server) (l : Ledger) (clock : Clock) (r : Record) :
    Option Int → Except StoreError Record → Server → Ledger → Clock → Prop
  | refused {error : StoreError} (count : s.permit .countUp = .error error) (holds : Holds s l) :
      Created s l clock r none (.error error) s l clock
  | dropped {error : StoreError} {s' : Server} (batch : s.permit .commit = .error error)
      (holds : Holds s' (l ++ [none])) :
      Created s l clock r (some r.id) (.error error) s' (l ++ [none]) clock.tick
  | stored {s' : Server} (holds : Holds s' (l ++ [some r])) :
      Created s l clock r (some r.id) (.ok r) s' (l ++ [some r]) clock.tick

/-- **All that the making of a record can do.** -/
theorem create_cases (h : Holds s l) (room : l.length + 1 < 2 ^ 64) {clock : Clock}
    (code language : String) {report : Report} (hreport : report.Writable)
    (hnow : clock.now.Fits) :
    ∃ number outcome s' l' clock', handed? s = number ∧
      create s clock code language report = (outcome, s', clock') ∧ s'.failing = s.failing ∧
      Created s l clock
        (Record.ofReport (l.length + 1 : Nat) code language report clock.now)
        number outcome s' l' clock' := by
  cases hcount : s.permit .countUp with
  | error error =>
    have hrefused := countUp_refused hcount counterKey
    refine ⟨none, .error error, s, l, clock, ?_, ?_, rfl, .refused hcount h⟩
    · rw [handed?, hrefused]
      rfl
    · rw [create, hrefused]
  | ok =>
    have hcounted := countUp_eq h room hcount
    have hgap : Holds (s.setText counterKey (Numeral.text (l.length + 1 : Nat))) (l ++ [none]) :=
      h.counted
    generalize hs : s.setText counterKey (Numeral.text (l.length + 1 : Nat)) = counted at *
    have hfailing : counted.failing = s.failing := by
      rw [← hs]
      rfl
    have hpermit : counted.permit .commit = s.permit .commit := by
      rw [Server.permit, Server.permit, hfailing]
    have hnumber : handed? s = some ((l.length + 1 : Nat) : Int) := by
      rw [handed?, hcounted]
      rfl
    cases hbatch : s.permit .commit with
    | error error =>
      refine ⟨_, .error error, counted, _, clock.tick, hnumber, ?_, hfailing, .dropped hbatch hgap⟩
      rw [create, hcounted]
      simp only [commit_refused (hpermit.trans hbatch)]
    | ok =>
      refine ⟨_, .ok _, _, _, clock.tick, hnumber, ?_, ?_, .stored (hgap.filled ?_ ?_)⟩
      · rw [create, hcounted]
        simp only [commit_eq (hpermit.trans hbatch)]
        rfl
      · exact hfailing
      · rfl
      · exact Record.writable_ofReport (Numeral.short_of_lt (by omega)) hreport hnow code language

/-- A record that was not made has changed nothing but the counter. -/
theorem create_error {clock : Clock} {code language : String} {report : Report}
    {error : StoreError} (h : (create s clock code language report).1 = .error error) :
    (create s clock code language report).2.1.index = s.index ∧
      ∀ key ≠ counterKey,
        (create s clock code language report).2.1.text? key = s.text? key := by
  unfold create at h ⊢
  cases hcount : s.countUp counterKey with
  | error error => exact ⟨rfl, fun _ _ => rfl⟩
  | ok counted =>
    obtain ⟨number, counted⟩ := counted
    obtain ⟨n, -, -, -, rfl⟩ := countUp_ok hcount
    rw [hcount] at h
    simp only at h ⊢
    split
    · exact ⟨rfl, fun key hkey => Server.text?_setText_of_ne s hkey (Numeral.text number)⟩
    · rename_i hcommit
      rw [hcommit] at h
      exact absurd h (by simp)

/-! ## 2. Reading records -/

/-- **The record of a number is the one in the ledger**, if the number can be written. -/
theorem get_eq (h : Holds s l) (permitted : s.permit .fetch = .ok ()) {id : Int}
    (short : Numeral.Short id) : get s id = .ok (l.find? id) := by
  rw [get, writtenKey_of_short short]
  simp only [Server.fetch, permitted, bind, Except.bind, pure, Except.pure, h.texts]
  cases hr : l.find? id with
  | none => rfl
  | some r =>
    simp only [Option.map_some, decode_encode (h.writable r (Ledger.mem_kept.mpr ⟨id, hr⟩))]

/-- The members of some records of the ledger are read as these records. -/
theorem collect_eq (h : Holds s l) (permitted : s.permit .fetch = .ok ()) (rs : List Record)
    (hrs : ∀ r ∈ rs, r ∈ l.kept) : collect s (rs.map fun r => Numeral.text r.id) = .ok rs := by
  induction rs with
  | nil => rfl
  | cons r rs ih =>
    rw [List.forall_mem_cons] at hrs
    have hread := Numeral.read_text (h.writable r hrs.1).id
    have hget := get_eq h permitted (h.writable r hrs.1).id
    rw [h.numbered.find?_id hrs.1] at hget
    simp only [List.map_cons, collect, hread, hget, ih hrs.2, Except.mapError, bind, Except.bind,
      pure, Except.pure, Option.toList_some, List.singleton_append]

/-- The index is in ascending order as it stands. -/
theorem ranked_eq (h : Holds s l) : s.ranked = l.kept.map fun r => (Numeral.text r.id, r.id) := by
  rw [Server.ranked, h.index]
  refine List.mergeSort_of_pairwise (List.pairwise_map.mpr ?_)
  refine h.numbered.pairwise_kept.imp fun {a b} hab => ?_
  simp [Server.before, hab]

/-- **Cutting the position of a limit to sixty-four bits changes nothing**, if fewer members than
that are in the index. -/
theorem highest_clamp (permitted : s.permit .highest = .ok ()) {limit : Int} (hlimit : limit ≠ 0)
    (few : s.ranked.length < 2 ^ 63) :
    s.highest (clamp (limit - 1)) = .ok (slice limit (s.ranked.reverse.map Prod.fst)) := by
  have hlength : (s.ranked.reverse.map Prod.fst).length < 2 ^ 63 := by simpa using few
  rw [Server.highest, permitted]
  simp only [bind, Except.bind, pure, Except.pure, Except.ok.injEq]
  generalize s.ranked.reverse.map Prod.fst = members at hlength ⊢
  have hcut : ∀ position : Int, (if position < 0 then [] else members.take (position.toNat + 1)) =
      members.take (if position < 0 then 0 else position.toNat + 1) := by
    intro position
    split <;> simp
  -- both sides take a number of members; beyond the length the number does not matter
  rw [hcut, slice_eq_take, List.take_eq_take_iff, clamp, maxPosition]
  split_ifs <;> omega

/-- **The latest records are those of the ledger from its end**, cut by the limit. -/
theorem recent_eq (h : Holds s l) (fetched : s.permit .fetch = .ok ())
    (listed : s.permit .highest = .ok ()) (few : l.length < 2 ^ 63) (limit : Int) :
    recent s limit = .ok (slice limit l.kept.reverse) := by
  rcases eq_or_ne limit 0 with rfl | hlimit
  · rfl
  · have hfew : s.ranked.length < 2 ^ 63 := by
      rw [ranked_eq h, List.length_map]
      exact Nat.lt_of_le_of_lt l.length_kept_le few
    have hmembers : s.ranked.reverse.map Prod.fst =
        l.kept.reverse.map fun r => Numeral.text r.id := by
      rw [ranked_eq h, ← List.map_reverse, List.map_map]
      rfl
    rw [recent, if_neg hlimit]
    simp only [highest_clamp listed hlimit hfew, hmembers, ← map_slice, bind, Except.bind]
    refine collect_eq h fetched _ fun r hr => ?_
    exact List.mem_reverse.mp (mem_of_mem_slice hr)

end Critique.Remote
