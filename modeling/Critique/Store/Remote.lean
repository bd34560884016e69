/-
# The store on a server

Records are kept as compact JSON under `analysis:` and their number; the numbers come from a
counter, and an index scored by number tells which records are the latest. A record is made in two
steps, the count and then one batch, so a failure in between costs a number and nothing else.

A number of more than `Numeral.digitLimit` digits has no key that could be written. Whoever asks for
its record is refused before the server is asked; the count never gets there, for it writes its
numbers as well.

Main statements: `recent_zero` (a limit of zero asks nothing of the server) and `create_refused`
(a refused count changes nothing at all).
-/
import Critique.Json.Writer
import Critique.Store.Server

namespace Critique.Remote

/-- The key of the counter. -/
def counterKey : String := "analysis:next_id"

/-- The name of the index. -/
def indexName : String := "analyses:recent"

/-- The key of a record. -/
def recordKey (id : Int) : String :=
  "analysis:" ++ Numeral.text id

/-- The key of a record as it is written, unless its number has too many digits. -/
def writtenKey (id : Int) : Except StoreError String := do
  return "analysis:" ++ (← (Numeral.writtenWithin id).mapError StoreError.numeral)

/-- The text that a record is kept as. -/
def encode (r : Record) : String :=
  Json.render r.toJson

/-- The record that a text keeps. -/
def decode (text : String) : Except StoreError Record :=
  match Json.read text with
  | .error error => .error (.unreadable error)
  | .ok value => (checkRecord value).mapError StoreError.invalid

/-- Makes a record of a report. The clock is read between the count and the batch. -/
def create (s : Server) (clock : Clock) (code language : String) (report : Report) :
    Except StoreError Record × Server × Clock :=
  match s.countUp counterKey with
  | .error error => (.error error, s, clock)
  | .ok (id, counted) =>
    let record := Record.ofReport id code language report clock.now
    match counted.commit (recordKey id) (encode record) (Numeral.text id) id with
    | .error error => (.error error, counted, clock.tick)
    | .ok stored => (.ok record, stored, clock.tick)

/-- The record of a number. -/
def get (s : Server) (id : Int) : Except StoreError (Option Record) := do
  match ← s.fetch (← writtenKey id) with
  | none => return none
  | some text => return some (← decode text)

/-- The largest position that the server takes, the largest number of 64 bits with a sign. -/
def maxPosition : Int := 9223372036854775807

/-- A position brought into the range that the server takes. -/
def clamp (position : Int) : Int :=
  max (min position maxPosition) (-maxPosition - 1)

/-- The records of some members of the index; members without a record are left out. -/
def collect (s : Server) : List String → Except StoreError (List Record)
  | [] => .ok []
  | member :: rest => do
    let id ← (Numeral.read member).mapError StoreError.numeral
    let record ← get s id
    let records ← collect s rest
    return record.toList ++ records

/-- The latest records first, cut by a limit. -/
def recent (s : Server) (limit : Int) : Except StoreError (List Record) := do
  if limit = 0 then return []
  collect s (← s.highest (clamp (limit - 1)))

@[simp] theorem recent_zero (s : Server) : recent s 0 = .ok [] := rfl

/-- A refused count changes nothing at all. -/
theorem create_refused {s : Server} {message : String} (h : s.failing = some (.countUp, message))
    (clock : Clock) (code language : String) (report : Report) :
    create s clock code language report = (.error (.refused message), s, clock) := by
  have refused : s.countUp counterKey = .error (.refused message) := by
    simp [Server.countUp, Server.permit, h, bind, Except.bind]
  simp [create, refused]

end Critique.Remote
