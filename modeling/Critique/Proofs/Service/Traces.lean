/-
# What leaves no trace

Requests that only read, and submissions that are refused, can be taken out of a run without anybody
noticing: the requests that remain are answered as before, numbers and times of later records
included.

A run is compared with the same run less some of its requests, so there are two archives to follow.
They are never apart: as long as no command of the server fails, what is not accepted leaves the
archive as it is, and its reader of the clock with it (`respond_of_not_accepted`), so both runs reach
the next request that remains with one archive.

* `answers_kept`: taking out what was not accepted changes no other answer;
* `after_kept`: and it leads to the same archive.
-/
import Critique.Proofs.Service.Run

namespace Critique.Service

open Http

/-! ## 1. Taking out -/

/-- What is kept of a list where some of its positions are taken out. -/
def kept {α : Type} (keep : Nat → Bool) : List α → List α
  | [] => []
  | x :: xs =>
    if keep 0 then x :: kept (fun k => keep (k + 1)) xs else kept (fun k => keep (k + 1)) xs

/-- Only requests that are not accepted are taken out of a run. -/
def SparesAccepted (a : Archive) (keep : Nat → Bool) (requests : List Request) : Prop :=
  ∀ k request response, requests[k]? = some request → (answers a requests)[k]? = some response →
    keep k = false → ¬ Accepted request response

section

variable {a : Archive} {keep : Nat → Bool} {request : Request} {requests : List Request}

/-- What is taken out at the front was not accepted. -/
theorem SparesAccepted.head (h : SparesAccepted a keep (request :: requests))
    (hout : keep 0 = false) : ¬ Accepted request (respond a request).1 :=
  h 0 request (respond a request).1 rfl rfl hout

/-- Of the rest of a run, too, only what is not accepted is taken out. -/
theorem SparesAccepted.tail (h : SparesAccepted a keep (request :: requests)) :
    SparesAccepted (respond a request).2 (fun k => keep (k + 1)) requests :=
  fun k other response hother hresponse hout => h (k + 1) other response hother hresponse hout

/-! ## 2. Runs less some requests -/

/-- Taking out what is not accepted changes neither the other answers nor the archive in the end. -/
theorem answers_after_kept (hworking : a.store.Working) (h : SparesAccepted a keep requests) :
    answers a (kept keep requests) = kept keep (answers a requests) ∧
      after a (kept keep requests) = after a requests := by
  induction requests generalizing a keep with
  | nil => exact ⟨rfl, rfl⟩
  | cons request requests ih =>
    obtain ⟨hanswers, hafter⟩ := ih (respond_working hworking request) h.tail
    rw [kept, answers, kept]
    cases hkeep : keep 0 with
    | true =>
      rw [if_pos rfl, if_pos rfl, answers, hanswers]
      exact ⟨rfl, hafter⟩
    | false =>
      -- the request that is missing has left the archive as it was
      have hsame := respond_of_not_accepted hworking (h.head hkeep)
      rw [hsame] at hanswers hafter
      rw [if_neg Bool.false_ne_true, if_neg Bool.false_ne_true, hsame]
      refine ⟨hanswers, hafter.trans ?_⟩
      rw [after, after, List.foldl_cons, hsame]

end

/-- Taking out what is not accepted leads to the same archive. -/
theorem after_kept {a : Archive} (fresh : a.store.IsFresh) {keep : Nat → Bool}
    {requests : List Request} (spared : SparesAccepted a keep requests) :
    after a (kept keep requests) = after a requests :=
  (answers_after_kept fresh.working spared).2

/-- **What is not accepted leaves no trace**: a run over a fresh store is answered, less any of the
requests that were not submissions answered with status 200, as it was answered with them. -/
theorem answers_kept {a : Archive} (fresh : a.store.IsFresh) {keep : Nat → Bool}
    {requests : List Request} (spared : SparesAccepted a keep requests) :
    answers a (kept keep requests) = kept keep (answers a requests) :=
  (answers_after_kept fresh.working spared).1

/-- A listing and a submission that is a list, before and after a submission that is accepted. -/
theorem answers_kept_of_four :
    let get (path : String) : Request := ⟨"GET", ⟨path, []⟩, none⟩
    let post (text : String) : Request :=
      ⟨"POST", ⟨"/api/analyze", []⟩, some ⟨text, "application/json"⟩⟩
    let accepted := post "\x7b\"code\": \"x = 1\", \"language\": \"python\"\x7d"
    let requests := [get "/api/analyses/recent", accepted, post "[]", get "/api/analysis/1"]
    let a : Archive := ⟨.remote .empty, ⟨fun _ => 0, 0⟩⟩
    answers a [accepted, get "/api/analysis/1"] =
      kept (fun k => k % 2 == 1) (answers a requests) := by
  intro get post accepted requests a
  have hkept : kept (fun k => k % 2 == 1) requests = [accepted, get "/api/analysis/1"] := by
    simp [kept, requests]
  have hrefused : ∀ b, (respond b (post "[]")).1.status = 500 := fun _ => rfl
  rw [← hkept]
  refine answers_kept (.inr rfl) ?_
  intro k request response hrequest hresponse hout haccepted
  have hlt : k < requests.length := (List.getElem?_eq_some_iff.mp hrequest).1
  obtain rfl | rfl : k = 0 ∨ k = 2 := by
    have hodd : k % 2 ≠ 1 := by simpa using hout
    have hlength : requests.length = 4 := rfl
    omega
  · rw [← Option.some.inj hrequest] at haccepted
    exact absurd haccepted.1 (by decide)
  · rw [answers, answers, answers, List.getElem?_cons_succ, List.getElem?_cons_succ,
      List.getElem?_cons_zero, Option.some.injEq] at hresponse
    have hstatus := haccepted.2.2
    rw [← hresponse, hrefused] at hstatus
    exact absurd hstatus (by decide)

end Critique.Service
