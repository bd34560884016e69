/-
# Schemas

Data that arrive as JSON are checked field by field, and every fault is reported, each with the path
that leads to it. A field may have two names; the first one wins, a fault names the one that was
found, and a missing field is named by the first.

Numbers are taken generously: a truth value counts as 0 or 1, a floating-point number must be whole,
and a text may spell an integer. Texts and lists are taken as they are.

Main statements: `Checked.ap_ok_iff` (a check of two parts succeeds iff both do) and
`Checked.ap_error` (two faulty parts report both, in order).
-/
import Critique.Json.Value
import Critique.Number.Binary64
import Critique.Text.Numeral
import Critique.Time.Stamp

namespace Critique

/-! ## 1. Faults -/

/-- Why a value does not fit. -/
inductive Cause where
  | missing
  | notObject (what : String)
  | notInteger
  | fractional
  | notFinite
  | unreadInteger
  | oversized
  | negative
  | notText
  | brokenText
  | emptyText
  | notOneOf (names : List String)
  | notList
  | notStamp
  | stamp (flaw : Time.StampFlaw)
  | stampText (flaw : Time.StampFlaw)
  deriving DecidableEq

/-- Names in quotes with commas between them and `or` before the last. -/
def listed : List String → String
  | [] => ""
  | [name] => "'" ++ name ++ "'"
  | [name, last] => "'" ++ name ++ "' or '" ++ last ++ "'"
  | name :: rest => "'" ++ name ++ "', " ++ listed rest

/-- The wording of a cause. -/
def Cause.message : Cause → String
  | .missing => "Field required"
  | .notObject what => "Input should be a valid dictionary or instance of " ++ what
  | .notInteger => "Input should be a valid integer"
  | .fractional => "Input should be a valid integer, got a number with a fractional part"
  | .notFinite => "Input should be a finite number"
  | .unreadInteger => "Input should be a valid integer, unable to parse string as an integer"
  | .oversized => "Unable to parse input string as an integer, exceeded maximum size"
  | .negative => "Input should be greater than or equal to 0"
  | .notText => "Input should be a valid string"
  | .brokenText => "Input should be a valid string, unable to parse raw data as a unicode string"
  | .emptyText => "String should have at least 1 character"
  | .notOneOf names => "Input should be " ++ listed names
  | .notList => "Input should be a valid list"
  | .notStamp => "Input should be a valid datetime"
  | .stamp flaw => "Input should be a valid datetime, " ++ flaw.message
  | .stampText flaw => "Input should be a valid datetime or date, " ++ flaw.message

/-- One step of a path: a member or a position. -/
inductive Hop where
  | name (name : String)
  | index (index : Nat)
  deriving DecidableEq

/-- A hop as it is written in a path. -/
def Hop.text : Hop → String
  | .name key => key
  | .index position => Numeral.text position

/-- A cause and the path to it. -/
structure Fault where
  path : List Hop
  cause : Cause
  deriving DecidableEq

/-- A fault as it is reported; the value as a whole is called `body`. -/
def Fault.message (f : Fault) : String :=
  let path := ".".intercalate (f.path.map Hop.text)
  (if path.isEmpty then "body" else path) ++ ": " ++ f.cause.message

/-- All faults of a value in one line. -/
def faultsMessage (faults : List Fault) : String :=
  "; ".intercalate (faults.map Fault.message)

/-! ## 2. Checks -/

/-- A value that fits, or all its faults. -/
abbrev Checked (α : Type) := Except (List Fault) α

/-- A value that does not fit. -/
def faulty {α : Type} (cause : Cause) : Checked α :=
  .error [⟨[], cause⟩]

/-- A value that is taken as it is. -/
def Checked.of {α : Type} (a : α) : Checked α :=
  .ok a

/-- The check of two parts, the first of which awaits the second: the faults of both are kept. -/
def Checked.ap {α β : Type} : Checked (α → β) → Checked α → Checked β
  | .ok f, .ok a => .ok (f a)
  | .ok _, .error faults => .error faults
  | .error faults, .ok _ => .error faults
  | .error first, .error second => .error (first ++ second)

/-- The same check one hop further in. -/
def Checked.under {α : Type} (hop : Hop) : Checked α → Checked α
  | .ok a => .ok a
  | .error faults => .error (faults.map fun f => { f with path := hop :: f.path })

/-- **A check of two parts succeeds iff both do.** -/
theorem Checked.ap_ok_iff {α β : Type} {f : Checked (α → β)} {a : Checked α} {b : β} :
    Checked.ap f a = .ok b ↔ ∃ g x, f = .ok g ∧ a = .ok x ∧ g x = b := by
  cases f <;> cases a <;> simp [Checked.ap]

theorem Checked.ap_error {α β : Type} (first second : List Fault) :
    Checked.ap (.error first : Checked (α → β)) (.error second) = .error (first ++ second) := rfl

theorem Checked.under_ok_iff {α : Type} {hop : Hop} {a : Checked α} {x : α} :
    Checked.under hop a = .ok x ↔ a = .ok x := by
  cases a <;> simp [Checked.under]

/-! ## 3. Plain values -/

/-- What is left behind the zeros and single underscores at the start of a text, the last of which
was `last`. A point keeps the one in front of it, and so does the end. -/
def afterZeros? (last : Char) : List Char → Option (List Char)
  | [] => some [last]
  | c :: t =>
    if c = '0' then afterZeros? c t
    else if c = '_' then (if last = '_' then none else afterZeros? c t)
    else if c = '.' then some (last :: c :: t)
    else if c.isDigit ∨ c = '-' then some (c :: t)
    else none

/-- A text without the zeros that it begins with; it must begin with a digit or a minus. -/
def withoutZeros? : List Char → Option (List Char)
  | [] => none
  | c :: t =>
    if c = '0' then afterZeros? c t
    else if c.isDigit ∨ c = '-' then some (c :: t)
    else none

/-- A text without its plus; a plus in front of a minus stays. -/
def withoutPlus : List Char → List Char
  | '+' :: t => if t.head? = some '-' then '+' :: t else t
  | s => s

/-- A text without its fraction, if that is a point and zeros only, and one of them at least. -/
def withoutZeroFraction (s : List Char) : List Char :=
  let fraction := (s.dropWhile (· != '.')).drop 1
  if !fraction.isEmpty && fraction.all (· == '0') then s.takeWhile (· != '.') else s

/-- Whether two underscores are neighbours in a text. -/
def hasDoubleUnderscore : List Char → Bool
  | '_' :: '_' :: _ => true
  | _ :: t => hasDoubleUnderscore t
  | [] => false

/-- A text without its underscores, if none of them stands at an end or beside another. -/
def withoutUnderscores (s : List Char) : List Char :=
  if s.head? = some '_' || s.getLast? = some '_' || hasDoubleUnderscore s then s
  else s.filter (· != '_')

/-- An integer with a minus or no sign and nothing but ASCII digits. -/
def plainInteger? (s : List Char) : Option Int :=
  let (negative, body) := match s with
    | '-' :: t => (true, t)
    | _ => (false, s)
  match Numeral.plainRun Text.asciiDigitValue? body with
  | (d :: ds, []) => some (Numeral.signed negative (d :: ds))
  | _ => none

/-- Whether an integer fits in a signed word of 64 bits. -/
def fitsWord (n : Int) : Bool :=
  -9223372036854775808 ≤ n && n < 9223372036854775808

/-- The integer that a text spells: white space around it, one sign or none, digits with single
underscores between them, and perhaps a point with zeros behind it. Zeros in front count for
nothing, not even in front of a minus. What does not fit in a word may have so many characters. -/
def integerOfText (s : String) : Except Cause Int :=
  match withoutZeros? (withoutPlus (Text.stripBy Text.isSpace s.toList)) with
  | none => .error .unreadInteger
  | some body =>
    let bare := withoutUnderscores (withoutZeroFraction body)
    match plainInteger? bare with
    | none => .error .unreadInteger
    | some n =>
      if fitsWord n || bare.length ≤ Numeral.digitLimit then .ok n else .error .oversized

/-- An integer, generously read. -/
def checkInteger : Json → Checked Int
  | .int n => .ok n
  | .bool b => .ok (if b then 1 else 0)
  | .real x =>
    match Number.Binary64.ofFloat x with
    | .finite negative mantissa exponent =>
      if ¬ Number.isWhole mantissa exponent then faulty .fractional
      else if Nat.pow 2 63 ≤ Number.wholePart mantissa exponent then faulty .oversized
      else .ok (Number.truncate negative mantissa exponent)
    | _ => faulty .notFinite
  | .text s =>
    match integerOfText s with
    | .ok n => .ok n
    | .error cause => faulty cause
  | .broken _ => faulty .brokenText
  | _ => faulty .notInteger

/-- An integer that is not negative. -/
def checkNatural (value : Json) : Checked Nat :=
  match checkInteger value with
  | .ok (.ofNat n) => .ok n
  | .ok (.negSucc _) => faulty .negative
  | .error faults => .error faults

/-- A text. -/
def checkText : Json → Checked String
  | .text s => .ok s
  | .broken _ => faulty .brokenText
  | _ => faulty .notText

/-- A text of at least one character. -/
def checkNonempty (value : Json) : Checked String :=
  match checkText value with
  | .ok s => if s = "" then faulty .emptyText else .ok s
  | .error faults => .error faults

/-- A text or null. -/
def checkOptionalText : Json → Checked (Option String)
  | .null => .ok none
  | value => (checkText value).map some

/-- One of some names. -/
def checkChoice {α : Type} (names : List String) (ofName? : String → Option α) :
    Json → Checked α
  | .text s =>
    match ofName? s with
    | some a => .ok a
    | none => faulty (.notOneOf names)
  | .broken _ => faulty .brokenText
  | _ => faulty (.notOneOf names)

/-- A stamp that was read, or not, with the cause that a flaw of the reading is. -/
def checkRead (causeOf : Time.StampFlaw → Cause) :
    Except Time.StampFlaw Time.Stamp → Checked Time.Stamp
  | .error flaw => faulty (causeOf flaw)
  | .ok stamp =>
    match stamp.checked with
    | .ok stamp => .ok stamp
    | .error flaw => faulty (.stamp flaw)

/-- Whether the double nearest to an integer would be infinite: half a step above the largest one,
and beyond. -/
def exceedsDoubles (n : Int) : Bool :=
  Nat.pow 2 1024 - Nat.pow 2 970 ≤ n.natAbs

/-- A time stamp: a text, or a count since 1970. -/
def checkStamp : Json → Checked Time.Stamp
  | .int n => if exceedsDoubles n then faulty .notStamp else checkRead .stamp (Time.Stamp.ofUnix n)
  | .real x => checkRead .stamp (Time.Stamp.ofFloat x)
  | .text s => checkRead .stampText (Time.Stamp.read s)
  | .broken _ => faulty .brokenText
  | _ => faulty .notStamp

/-! ## 4. Lists and objects -/

/-- The items of a list from position `index` on. -/
def checkItems {α : Type} (check : Json → Checked α) : Nat → List Json → Checked (List α)
  | _, [] => .ok []
  | index, item :: rest =>
    Checked.ap (((check item).under (.index index)).map List.cons)
      (checkItems check (index + 1) rest)

/-- A list of values of one kind. -/
def checkList {α : Type} (check : Json → Checked α) : Json → Checked (List α)
  | .list items => checkItems check 0 items
  | _ => faulty .notList

/-- An object, called `what` where it is none. -/
def checkObject {α : Type} (what : String) (check : List (Json.Key × Json) → Checked α) :
    Json → Checked α
  | .object members => check members
  | _ => faulty (.notObject what)

/-- The first of some names that an object has, with its value. -/
def findMember (names : List String) (members : List (Json.Key × Json)) : Option (String × Json) :=
  names.findSome? fun name => (Entries.find? (.text name) members).map (name, ·)

/-- A field that may be left out. -/
def optionalField {α : Type} (names : List String) (default : α) (check : Json → Checked α)
    (members : List (Json.Key × Json)) : Checked α :=
  match findMember names members with
  | some (name, value) => (check value).under (.name name)
  | none => .ok default

/-- A field that must be there. -/
def field {α : Type} (names : List String) (check : Json → Checked α)
    (members : List (Json.Key × Json)) : Checked α :=
  match findMember names members with
  | some (name, value) => (check value).under (.name name)
  | none => .error [⟨(names.head?.map Hop.name).toList, .missing⟩]

end Critique
