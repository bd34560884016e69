/-
# Hosts by number

An address names its host by number between brackets. The number is eight groups of up to four
hexadecimal digits with colons between them; the last two may be written as four decimal octets, and
one run of zero groups may be left out, which shows as two colons. A zone may follow a `%`. Numbers
of a version to come begin with a `v`.

Four octets alone are the number of a host too, but such a number needs no brackets, and has none.

Main statement: `isWhole_iff_length` (of whole groups without a gap, eight make a number).
-/
import Critique.Http.Target
import Critique.Text.Numeral

namespace Critique.Host

/-! ## 1. Octets -/

/-- Whether a text is a decimal number below 256 without needless zeros. -/
def isOctet (s : List Char) : Bool :=
  match Numeral.plainRun Text.asciiDigitValue? s with
  | ([0], []) => true
  | (d :: ds, []) => d != 0 && ds.length ≤ 2 && Numeral.worth (d :: ds) ≤ 255
  | _ => false

/-- Whether a text is four octets with points between them. -/
def isQuad (s : List Char) : Bool :=
  let octets := Text.parts '.' s
  octets.length == 4 && octets.all isOctet

/-! ## 2. Groups -/

/-- Whether a text is a group of one to four hexadecimal digits. -/
def isGroup (s : List Char) : Bool :=
  !s.isEmpty && s.length ≤ 4 && s.all fun c => (Http.hexValue? c).isSome

/-- The parts of a number with four octets at its end written as two groups; none if what ends it
has points but is no four octets. -/
def withoutQuad? (parts : List (List Char)) : Option (List (List Char)) :=
  match parts.getLast? with
  | none => some parts
  | some last =>
    if !last.contains '.' then some parts
    else if isQuad last then some (parts.dropLast ++ [['0'], ['0']])
    else none

/-- How many groups stand on one side of those left out; a side of one empty part has none. -/
def sideLength? (parts : List (List Char)) : Option Nat :=
  if parts = [[]] then some 0
  else if parts.all isGroup then some parts.length
  else none

/-- The parts before and behind the first empty part that is neither the first nor the last one. -/
def splitAtGap? : List (List Char) → Option (List (List Char) × List (List Char))
  | first :: [] :: next :: rest => some ([first], next :: rest)
  | first :: rest => (splitAtGap? rest).map fun (before, behind) => (first :: before, behind)
  | [] => none

/-- Whether parts make a whole number: eight groups, or fewer around one gap. -/
def isWhole (parts : List (List Char)) : Bool :=
  match splitAtGap? parts with
  | none => parts.length == 8 && parts.all isGroup
  | some (before, behind) =>
    match sideLength? before, sideLength? behind with
    | some m, some n => m + n ≤ 7
    | _, _ => false

/-- Whether a text is a number of eight groups, perhaps with a zone. -/
def isGroups (s : List Char) : Bool :=
  let (number, zone) := (s.takeWhile (· != '%'), s.dropWhile (· != '%'))
  let zoneFits := zone.isEmpty || (zone.length != 1 && !(zone.drop 1).contains '%')
  zoneFits && (withoutQuad? (Text.parts ':' number)).any isWhole

theorem splitAtGap_none {parts : List (List Char)} (full : ∀ part ∈ parts, part ≠ []) :
    splitAtGap? parts = none := by
  induction parts with
  | nil => rfl
  | cons first rest ih =>
    have tail := ih fun part m => full part (List.mem_cons_of_mem first m)
    match rest with
    | [] => simp [splitAtGap?]
    | [] :: _ => exact absurd rfl (full [] (by simp))
    | (c :: part) :: rest =>
      rw [splitAtGap?, tail]
      · rfl
      · simp

/-- **Of whole groups without a gap, eight make a number, and no other count does.** -/
theorem isWhole_iff_length {parts : List (List Char)} (full : ∀ part ∈ parts, isGroup part = true) :
    isWhole parts = true ↔ parts.length = 8 := by
  have gapless : splitAtGap? parts = none := splitAtGap_none fun part m e => by
    simpa [e, isGroup] using full part m
  simp [isWhole, gapless, List.all_eq_true.2 full]

/-! ## 3. Versions to come -/

/-- Whether a text is `v`, the hexadecimal number of a version, a point, and something more. -/
def isFuture (s : List Char) : Bool :=
  match s with
  | 'v' :: t =>
    let isHex := fun c => (Http.hexValue? c).isSome
    match t.dropWhile isHex with
    | '.' :: _ :: _ => !(t.takeWhile isHex).isEmpty
    | _ => false
  | _ => false

end Critique.Host
