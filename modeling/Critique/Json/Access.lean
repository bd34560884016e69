/-
# Members of unchecked values

Data from outside that no schema has checked are read member by member, and a value of another kind
than the reader expects is a cause of failure. `get` and `getD` look a member up where it may be
missing, `entry` where it must be there, `assign` sets one, `items` runs through a value, and
`integer` makes a whole number of it. `ordered` is a set of values in ascending order.

Main statements: `getD_of_find?` (a member that is there wins over the default) and
`integer_int` (a whole number is itself).
-/
import Critique.Json.Writer
import Critique.Number.Binary64
import Critique.Text.Numeral

namespace Critique.Json

/-! ## 1. Causes of failure -/

/-- Why a value could not be used: it has no such operation or member, takes no names, cannot be
changed, cannot be run through, cannot be looked up, is no number, cannot be compared, or lies too
deep. -/
inductive AccessError where
  | lacks (kind operation : String)
  | missing (key : String)
  | textByName
  | listByName
  | memberless (kind : String)
  | fixed (kind : String)
  | single (kind : String)
  | unhashable (kind : String)
  | notNumber (kind : String)
  | numeral (flaw : Numeral.Flaw)
  | notANumber
  | infinite
  | unordered (first second : String)
  | deep
  deriving DecidableEq

/-- The wording of a failure. -/
def AccessError.message : AccessError → String
  | .lacks kind operation => "'" ++ kind ++ "' object has no attribute '" ++ operation ++ "'"
  | .missing key => key
  | .textByName => "string indices must be integers, not 'str'"
  | .listByName => "list indices must be integers or slices, not str"
  | .memberless kind => "'" ++ kind ++ "' object is not subscriptable"
  | .fixed kind => "'" ++ kind ++ "' object does not support item assignment"
  | .single kind => "'" ++ kind ++ "' object is not iterable"
  | .unhashable kind => "unhashable type: '" ++ kind ++ "'"
  | .notNumber kind =>
    "int() argument must be a string, a bytes-like object or a real number, not '" ++ kind ++ "'"
  | .numeral flaw => flaw.message
  | .notANumber => "cannot convert float NaN to integer"
  | .infinite => "cannot convert float infinity to integer"
  | .unordered first second =>
    "'<' not supported between instances of '" ++ first ++ "' and '" ++ second ++ "'"
  | .deep => "maximum recursion depth exceeded while calling a Python object"

/-! ## 2. Members -/

/-- A key as a failure shows it. -/
def shownKey (key : Json) : String :=
  String.ofList (shown key)

/-- The value of a member that may be missing. -/
def get (name : String) : Json → Except AccessError (Option Json)
  | .object members => .ok (Entries.find? (.text name) members)
  | value => .error (.lacks value.kind "get")

/-- The value of a member, or a default. -/
def getD (value : Json) (name : String) (default : Json) : Except AccessError Json :=
  (value.get name).map (·.getD default)

/-- The value of a member that must be there. -/
def entry (name : String) : Json → Except AccessError Json
  | .object members =>
    match Entries.find? (.text name) members with
    | some value => .ok value
    | none => .error (.missing (shownKey (.text name)))
  | .text _ => .error .textByName
  | .broken _ => .error .textByName
  | .list _ => .error .listByName
  | value => .error (.memberless value.kind)

/-- The value with a member set. -/
def assign (value : Json) (name : String) (member : Json) : Except AccessError Json :=
  match value with
  | .object members => .ok (.object (Entries.set (.text name) member members))
  | .list _ => .error .listByName
  | value => .error (.fixed value.kind)

theorem getD_of_find? {name : String} {members : List (Key × Json)} {member : Json}
    (h : Entries.find? (.text name) members = some member) (default : Json) :
    getD (.object members) name default = .ok member := by
  simp [getD, get, h, Except.map]

theorem assign_entry (name : String) (member : Json) (members : List (Key × Json)) :
    (assign (.object members) name member >>= entry name) = .ok member := by
  simp [assign, entry, bind, Except.bind]

/-! ## 3. Items and numbers -/

/-- What one runs through in a value: the items of a list, the names of an object, the characters of
a text. -/
def items : Json → Except AccessError (List Json)
  | .list items => .ok items
  | .object members => .ok (members.map fun member => member.1.value)
  | .text s => .ok (s.toList.map fun c => .text (String.ofList [c]))
  | .broken codePoints =>
    .ok (codePoints.map fun n =>
      if 0xD800 ≤ n ∧ n < 0xE000 then .broken [n] else .text (String.ofList [Char.ofNat n]))
  | value => .error (.single value.kind)

/-- A whole number: truth values count as 0 or 1, a fraction is cut off, a text is read as a
numeral. -/
def integer : Json → Except AccessError Int
  | .int n => .ok n
  | .bool b => .ok (if b then 1 else 0)
  | .real x =>
    match Number.Binary64.ofFloat x with
    | .finite negative mantissa exponent => .ok (Number.truncate negative mantissa exponent)
    | .infinite _ => .error .infinite
    | .nan => .error .notANumber
  | .text s => (Numeral.read s).mapError AccessError.numeral
  | .broken codePoints =>
    match Numeral.read (String.ofList (mended codePoints)) with
    | .error (.tooLong digits) => .error (.numeral (.tooLong digits))
    | _ => .error (.numeral (.malformed codePoints))
  | value => .error (.notNumber value.kind)

theorem integer_int (n : Int) : integer (.int n) = .ok n := rfl

/-! ## 4. Sets of values -/

/-- Refuses values that cannot be looked up: lists and objects. -/
def hashed : Json → Except AccessError Json
  | .list _ => .error (.unhashable "list")
  | .object _ => .error (.unhashable "dict")
  | value => .ok value

/-- The values without those that an earlier one equals. -/
def distinct (values : List Json) : List Json :=
  values.foldl (fun known value => if known.any (same · value) then known else known ++ [value]) []

/-- The code points of a text. -/
def codePoints? : Json → Option (List Nat)
  | .text s => some (s.toList.map Char.toNat)
  | .broken codePoints => some codePoints
  | _ => none

/-- Whether a value comes before another: texts by code points, numbers by size. -/
def less (a b : Json) : Except AccessError Bool :=
  match a, b with
  | .real x, .real y => .ok (x < y)
  | a, b =>
    match a.codePoints?, b.codePoints? with
    | some s, some t => .ok (s < t)
    | _, _ =>
      match a.number?, b.number?, a, b with
      | some m, some n, _, _ => .ok (m < n)
      | none, some n, .real x, _ => .ok (Number.compareInt x n == some .lt)
      | some m, none, _, .real y => .ok (Number.compareInt y m == some .gt)
      | _, _, _, _ => .error (.unordered a.kind b.kind)

/-- Refuses values of which two neighbours cannot be compared. -/
def comparable : List Json → Except AccessError Unit
  | a :: b :: rest => do
    let _ ← less b a
    comparable (b :: rest)
  | _ => .ok ()

/-- The distinct values in ascending order. -/
def ordered (values : List Json) : Except AccessError (List Json) := do
  let known := distinct values
  comparable known
  return known.mergeSort fun a b => !((less b a).toOption.getD false)

end Critique.Json
