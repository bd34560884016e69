/-
# Stores

A store is in memory or on a server, and an archive is a store with the clock that stamps its
records. `Store.choose` chooses a store by the name of a backend.

Main statements: `choose_memory` (the backend in memory needs no address) and `choose_flaw` (an
address with a flaw gives no store).
-/
import Critique.Store.Address
import Critique.Store.Memory
import Critique.Store.Remote

namespace Critique

/-- A store of records. -/
inductive Store where
  | memory (records : Memory)
  | remote (server : Server)

namespace Store

/-! ## 1. Choosing a store -/

/-- Why no store could be chosen. -/
inductive ChoiceError where
  | addressMissing
  | address (flaw : AddressFlaw)
  | backendUnknown (backend : String)
  deriving DecidableEq

/-- The wording of a refusal. -/
def ChoiceError.message : ChoiceError → String
  | .addressMissing => "REDIS_URL is required for the redis storage backend"
  | .address flaw => flaw.message
  | .backendUnknown backend => "Unknown storage backend: " ++ backend

/-- The name of the backend of a store. -/
def backend : Store → String
  | .memory _ => "memory"
  | .remote _ => "redis"

/-- The empty store of a backend; a server needs an address without a flaw. -/
def choose (backend : String) (address : Option String) : Except ChoiceError Store :=
  if backend = "redis" then
    match address.getD "" with
    | "" => .error .addressMissing
    | address =>
      match Address.check address with
      | .error flaw => .error (.address flaw)
      | .ok () => .ok (.remote .empty)
  else if backend = "memory" then .ok (.memory .empty)
  else .error (.backendUnknown backend)

/-- An address with a flaw gives no store. -/
theorem choose_flaw {address : String} (given : address ≠ "") {flaw : AddressFlaw}
    (refused : Address.check address = .error flaw) :
    choose "redis" (some address) = .error (.address flaw) := by
  simp [choose, refused]

theorem choose_memory (address : Option String) :
    choose "memory" address = .ok (.memory .empty) := rfl

end Store

/-! ## 2. Archives -/

/-- A store with the clock that stamps its records. -/
structure Archive where
  store : Store
  clock : Clock

namespace Archive

/-- Makes a record of a report. -/
def create (a : Archive) (code language : String) (report : Report) :
    Except StoreError Record × Archive :=
  match a.store with
  | .memory records =>
    let (record, records) := records.create code language report a.clock.now
    (.ok record, ⟨.memory records, a.clock.tick⟩)
  | .remote server =>
    let (outcome, server, clock) := Remote.create server a.clock code language report
    (outcome, ⟨.remote server, clock⟩)

/-- The record of a number. -/
def get (a : Archive) (id : Int) : Except StoreError (Option Record) :=
  match a.store with
  | .memory records => .ok (records.get? id)
  | .remote server => Remote.get server id

/-- The latest records first, cut by a limit. -/
def recent (a : Archive) (limit : Int) : Except StoreError (List Record) :=
  match a.store with
  | .memory records => .ok (records.recent limit)
  | .remote server => Remote.recent server limit

/-- The number of records, where the store can tell. -/
def size? (a : Archive) : Option Nat :=
  match a.store with
  | .memory records => some records.size
  | .remote _ => none

/-- Works on the server behind an archive, if there is one. -/
def onServer (f : Server → Server) (a : Archive) : Archive :=
  match a.store with
  | .memory _ => a
  | .remote server => { a with store := .remote (f server) }

/-- How many records a listing shows where no other number is asked for. -/
def defaultLimit : Int := 10

end Archive

end Critique
