/-
# Request targets

The target of a request is a path and a query behind a `?`; what stands behind a `#` is not sent.
In both, `%` and two hexadecimal digits stand for a byte, and the bytes are UTF-8; a `%` that
nothing of the kind follows stands for itself. In a query a `+` is a blank, pairs are separated by
`&`, and a name without `=` has an empty value.

A path is resolved before anything in it is decoded: a host in front of it goes, and so do `.` and
what `..` takes back. It is then decoded twice, once where it is sent and once where it arrives.

Main statements: `unescape_plain` (a text without `%` is itself, byte for byte) and
`withoutDots_plain` (segments without dots stay as they are).
-/
import Critique.Text.Search
import Critique.Text.Utf8

namespace Critique.Http

/-! ## 1. Percent-encoding -/

/-- The value of a hexadecimal digit. -/
def hexValue? (c : Char) : Option Nat :=
  if '0' ≤ c ∧ c ≤ '9' then some (c.toNat - 0x30)
  else if 'a' ≤ c ∧ c ≤ 'f' then some (c.toNat - 0x57)
  else if 'A' ≤ c ∧ c ≤ 'F' then some (c.toNat - 0x37)
  else none

/-- The byte that two hexadecimal digits at the start of a text stand for. -/
def escaped? : List Char → Option Nat
  | a :: b :: _ => do return 16 * (← hexValue? a) + (← hexValue? b)
  | _ => none

/-- The bytes that a text stands for; `skip` characters still belong to the escape in hand. -/
def unescapeSkipping : Nat → List Char → List Nat
  | _, [] => []
  | skip + 1, _ :: rest => unescapeSkipping skip rest
  | 0, c :: rest =>
    match if c = '%' then escaped? rest else none with
    | some byte => byte :: unescapeSkipping 2 rest
    | none => Text.Utf8.encodeChar c ++ unescapeSkipping 0 rest

/-- The bytes that a text stands for. -/
def unescape (s : List Char) : List Nat :=
  unescapeSkipping 0 s

/-- The text that a percent-encoded text stands for. -/
def decoded (s : List Char) : String :=
  String.ofList (Text.Utf8.decode (unescape s))

/-- A text without `%` stands for itself, byte for byte. -/
theorem unescape_plain (s : List Char) (h : '%' ∉ s) :
    unescape s = s.flatMap Text.Utf8.encodeChar := by
  unfold unescape
  induction s with
  | nil => rfl
  | cons c rest ih =>
    have hc : c ≠ '%' := fun e => h (e ▸ List.mem_cons_self)
    have hrest := ih fun m => h (List.mem_cons_of_mem c m)
    simp [unescapeSkipping, hc, hrest]

/-! ## 2. Queries -/

/-- A text with a blank for every `+`. -/
def blanked (s : List Char) : List Char :=
  s.map fun c => if c = '+' then ' ' else c

/-- What stands before the first separator and what stands behind it. -/
def splitFirst (separator : Char) (s : List Char) : List Char × List Char :=
  (s.takeWhile (· != separator), (s.dropWhile (· != separator)).drop 1)

/-- The pair that one part of a query stands for. -/
def queryPair (part : List Char) : String × String :=
  let (name, value) := splitFirst '=' part
  (decoded (blanked name), decoded (blanked value))

/-- The pairs of a query; empty parts are none. -/
def queryPairs (query : List Char) : List (String × String) :=
  ((Text.parts '&' query).filter (!·.isEmpty)).map queryPair

/-! ## 3. Paths -/

/-- One more segment behind those so far, the last one first: a single dot stands for nothing, and
two dots take the last segment back, but not the empty one that a path begins with. -/
def addSegment (known : List (List Char)) (segment : List Char) : List (List Char) :=
  if segment = ['.'] then known
  else if segment = ['.', '.'] then (if known = [[]] then known else known.tail)
  else segment :: known

/-- Segments without those that are dots. -/
def withoutDots (segments : List (List Char)) : List (List Char) :=
  (segments.foldl addSegment []).reverse

theorem foldl_addSegment (segments known : List (List Char))
    (plain : ∀ segment ∈ segments, segment ≠ ['.'] ∧ segment ≠ ['.', '.']) :
    segments.foldl addSegment known = segments.reverse ++ known := by
  induction segments generalizing known with
  | nil => rfl
  | cons segment rest ih =>
    have here := plain segment List.mem_cons_self
    rw [List.foldl_cons, ih _ fun s m => plain s (List.mem_cons_of_mem segment m)]
    simp [addSegment, here.1, here.2]

/-- Segments of which none is a dot or two stay as they are. -/
theorem withoutDots_plain (segments : List (List Char))
    (plain : ∀ segment ∈ segments, segment ≠ ['.'] ∧ segment ≠ ['.', '.']) :
    withoutDots segments = segments := by
  simp [withoutDots, foldl_addSegment segments [] plain]

/-- A path without the host that may stand in front of it behind two slashes. -/
def withoutHost : List Char → List Char
  | '/' :: '/' :: rest => rest.dropWhile (· != '/')
  | path => path

/-- The path that is asked for: from the root, with one slash in front, and without dots. -/
def resolved (path : List Char) : List Char :=
  let rooted := '/' :: (withoutHost path).dropWhile (· == '/')
  match ['/'].intercalate (withoutDots (Text.parts '/' rooted)) with
  | [] => ['/']
  | path => path

/-! ## 4. Targets -/

/-- A path, and the pairs of a query in order. -/
structure Target where
  path : String
  query : List (String × String)
  deriving DecidableEq

namespace Target

/-- The target that a text stands for. -/
def ofText (text : String) : Target :=
  let (path, query) := splitFirst '?' (splitFirst '#' text.toList).1
  ⟨decoded (decoded (resolved path)).toList, queryPairs query⟩

/-- The value of a name in the query; the last one counts. -/
def queryValue? (t : Target) (name : String) : Option String :=
  (t.query.reverse.find? (·.1 == name)).map Prod.snd

end Target

end Critique.Http
