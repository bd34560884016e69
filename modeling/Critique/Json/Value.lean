/-
# JSON values

Values as they travel between the service, its store and its clients. Integers are unbounded and
apart from floating-point numbers; the members of an object keep their order, and a repeated name
keeps its first place and takes its last value. A text whose escapes leave half of a surrogate pair
is no `String`; it is kept as `broken`, by its code points, and so is the name of a member.

Main statements: `member?_object` (the members of an object are its entries) and `same_int_real` (a
whole number equals a double only if it is exactly that double).
-/
import Critique.Entries
import Critique.Number.Binary64

namespace Critique

/-- The name of a member: a text, or code points with half of a surrogate pair among them. -/
inductive Json.Key where
  | text (value : String)
  | broken (codePoints : List Nat)
  deriving DecidableEq

instance : Coe String Json.Key := ⟨.text⟩

/-- A JSON value. -/
inductive Json where
  | null
  | bool (value : Bool)
  | int (value : Int)
  | real (value : Float)
  | text (value : String)
  | broken (codePoints : List Nat)
  | list (items : List Json)
  | object (members : List (Json.Key × Json))
  deriving Inhabited

namespace Json

/-! ## 1. Members of an object -/

/-- The value under a name, if this is an object that has it. -/
def member? (name : String) : Json → Option Json
  | object members => Entries.find? (.text name) members
  | _ => none

@[simp] theorem member?_object (name : String) (members : List (Key × Json)) :
    (object members).member? name = Entries.find? (.text name) members := rfl

/-- A name as a value. -/
def Key.value : Key → Json
  | .text s => Json.text s
  | .broken codePoints => Json.broken codePoints

/-- The code points of a name. -/
def Key.codePoints : Key → List Nat
  | .text s => s.toList.map Char.toNat
  | .broken codePoints => codePoints

/-! ## 2. What a value counts as -/

/-- Whether a value counts as true: empty texts, lists and objects, zero and null do not. -/
def truthy : Json → Bool
  | null => false
  | bool value => value
  | int value => value != 0
  | real value => value != 0
  | text value => value != ""
  | broken _ => true
  | list items => !items.isEmpty
  | object members => !members.isEmpty

/-- The name that messages give to the kind of a value. -/
def kind : Json → String
  | null => "NoneType"
  | bool _ => "bool"
  | int _ => "int"
  | real _ => "float"
  | text _ => "str"
  | broken _ => "str"
  | list _ => "list"
  | object _ => "dict"

/-- The number that a value stands for where numbers are compared; truth values are 0 and 1. -/
def number? : Json → Option Int
  | bool value => some (if value then 1 else 0)
  | int value => some value
  | _ => none

/-- Whether two plain values are equal; truth values equal the integers that they count as, and the
double that is no number is one value. Lists and objects are never compared. -/
def same (a b : Json) : Bool :=
  match a, b with
  | null, null => true
  | text s, text t => s == t
  | broken s, broken t => s == t
  | real x, real y => x == y || (x.isNaN && y.isNaN)
  | real x, b => b.number?.any fun n => Number.compareInt x n == some .eq
  | a, real y => a.number?.any fun n => Number.compareInt y n == some .eq
  | a, b =>
    match a.number?, b.number? with
    | some m, some n => m == n
    | _, _ => false

/-- A whole number equals a double only if it is exactly that double. -/
theorem same_int_real (n : Int) (x : Float) :
    same (int n) (real x) = (Number.compareInt x n == some .eq) := rfl

/-- An optional text: null stands for none. -/
def ofText? : Option String → Json
  | none => null
  | some value => text value

end Json

end Critique
