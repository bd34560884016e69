/-
# Time stamps

A stamp is what a clock on a wall shows, in microseconds since the start of 1970, and the offset of
its zone from UTC in minutes, if a zone is known. Two stamps are compared by their instant.

* `Stamp.render` writes `YYYY-MM-DDTHH:MM:SS`, six digits of fraction only where it is not zero, and
  `Z`, `+HH:MM`, `-HH:MM` or nothing for the zone;
* `Stamp.read` reads that form and its looser relatives: `t`, a blank or `_` between date and time,
  seconds left out, any number of fraction digits of which six count, a zone without its colon, a
  bare date, or a count of seconds or milliseconds since 1970;
* `Stamp.ofUnix` and `Stamp.ofFloat` take such a count as a number;
* `Stamp.checked` refuses the year 0, which can be read but not kept.

Main statements: `ofInstant_instant` (a stamp of an instant shows that instant),
`ofParts_parts` (a stamp is made of its date, its time of day and its zone) and `checked_eq_ok_iff`
(what a check lets pass).
-/
import Critique.Time.Calendar
import Critique.Number.Binary64
import Critique.Text.Numeral

namespace Critique.Time

/-! ## 1. Stamps -/

/-- A clock reading with the offset of its zone in minutes. -/
structure Stamp where
  wall : Int
  zone : Option Int
  deriving DecidableEq, Inhabited

/-- Microseconds in a day. -/
def microsPerDay : Int := 86400000000

/-- The instant of a stamp, in microseconds since 1970 in UTC; no zone counts as UTC. -/
def Stamp.instant (s : Stamp) : Int :=
  s.wall - s.zone.getD 0 * 60000000

/-- The stamp of an instant, in UTC. -/
def Stamp.ofInstant (micros : Int) : Stamp :=
  ⟨micros, some 0⟩

@[simp] theorem ofInstant_instant (micros : Int) : (Stamp.ofInstant micros).instant = micros := by
  simp [Stamp.ofInstant, Stamp.instant]

/-- The microseconds since midnight. -/
def Stamp.ofDay (s : Stamp) : Int :=
  s.wall % microsPerDay

/-- The date that the wall shows. -/
def Stamp.date (s : Stamp) : Date :=
  .ofDays (s.wall / microsPerDay)

/-- The stamp of a date and the microseconds since its midnight. -/
def Stamp.ofParts (date : Date) (ofDay : Int) (zone : Option Int) : Stamp :=
  ⟨date.toDays * microsPerDay + ofDay, zone⟩

theorem ofDay_bounds (s : Stamp) : 0 ≤ s.ofDay ∧ s.ofDay < microsPerDay :=
  ⟨Int.emod_nonneg _ (by decide), Int.emod_lt_of_pos _ (by decide)⟩

/-- A stamp is made of its parts. -/
theorem ofParts_parts (s : Stamp) : Stamp.ofParts s.date s.ofDay s.zone = s := by
  cases s with
  | mk wall zone =>
    simp only [Stamp.ofParts, Stamp.date, Stamp.ofDay, Date.toDays_ofDays, Stamp.mk.injEq, and_true]
    exact Int.ediv_mul_add_emod wall microsPerDay

/-! ## 2. Writing -/

/-- A number of the given width in decimal. -/
def field (width : Nat) (n : Int) : List Char :=
  Numeral.padded width n.toNat

/-- A zone: `Z` for UTC, else the sign, hours and minutes of the offset. -/
def renderZone : Option Int → List Char
  | none => []
  | some offset =>
    if offset = 0 then ['Z']
    else
      (if offset < 0 then '-' else '+')
        :: (field 2 (offset.natAbs / 60) ++ ':' :: field 2 (offset.natAbs % 60))

/-- The written form of a stamp. -/
def Stamp.renderChars (s : Stamp) : List Char :=
  let seconds := s.ofDay / 1000000
  let micros := s.ofDay % 1000000
  field 4 s.date.year ++ '-' :: field 2 s.date.month ++ '-' :: field 2 s.date.day
    ++ 'T' :: field 2 (seconds / 3600) ++ ':' :: field 2 (seconds / 60 % 60)
    ++ ':' :: field 2 (seconds % 60)
    ++ (if micros = 0 then [] else '.' :: field 6 micros)
    ++ renderZone s.zone

/-- The written form of a stamp, as a string. -/
def Stamp.render (s : Stamp) : String :=
  String.ofList s.renderChars

/-! ## 3. Reading -/

/-- Why a text is no stamp, or a number none. -/
inductive StampFlaw where
  | tooShort
  | year
  | month
  | day
  | separator
  | monthRange
  | dayRange
  | extra
  | tooEarly
  | tooLate
  | notANumber
  | yearZero
  deriving DecidableEq

/-- The wording of a flaw. -/
def StampFlaw.message : StampFlaw → String
  | .tooShort => "input is too short"
  | .year => "invalid character in year"
  | .month => "invalid character in month"
  | .day => "invalid character in day"
  | .separator => "invalid date separator, expected `-`"
  | .monthRange => "month value is outside expected range of 1-12"
  | .dayRange => "day value is outside expected range"
  | .extra => "unexpected extra characters at the end of the input"
  | .tooEarly => "dates before 0000 are not supported as unix timestamps"
  | .tooLate => "dates after 9999 are not supported as unix timestamps"
  | .notANumber => "NaN values not permitted"
  | .yearZero => "year 0 is out of range"

/-- Reads a number of exactly `width` ASCII digits. -/
def takeDigits : Nat → List Char → Option (Nat × List Char)
  | 0, s => some (0, s)
  | width + 1, s => do
    let c ← s.head?
    let d ← Text.asciiDigitValue? c
    let (rest, s) ← takeDigits width s.tail
    return (d * Nat.pow 10 width + rest, s)

/-- Takes one given character off a text. -/
def takeChar (c : Char) (s : List Char) : Option (List Char) :=
  if s.head? = some c then some s.tail else none

/-- Reads the date that a text begins with. The length is counted in bytes of UTF-8. -/
def readDate (s : List Char) : Except StampFlaw (Date × List Char) := do
  if (String.ofList s).utf8ByteSize < 10 then throw .tooShort
  let some (year, s) := takeDigits 4 s | throw .year
  let some s := takeChar '-' s | throw .separator
  let some (month, s) := takeDigits 2 s | throw .month
  let some s := takeChar '-' s | throw .separator
  let some (day, s) := takeDigits 2 s | throw .day
  if month < 1 ∨ 12 < month then throw .monthRange
  if day < 1 ∨ daysInMonth year month < day then throw .dayRange
  return (⟨year, month, day⟩, s)

/-- The fraction of a second, in microseconds; digits after the sixth do not count. -/
def readFraction (s : List Char) : Option (Nat × List Char) :=
  match s with
  | c :: t =>
    if c = '.' ∨ c = ',' then
      match Numeral.plainRun Text.asciiDigitValue? t with
      | ([], _) => none
      | (ds, rest) => some (Numeral.worth ((ds ++ List.replicate 6 0).take 6), rest)
    else some (0, s)
  | [] => some (0, [])

/-- Reads a time of day, in microseconds since midnight. -/
def readTime (s : List Char) : Option (Nat × List Char) := do
  let (hour, s) ← takeDigits 2 s
  let s ← takeChar ':' s
  let (minute, s) ← takeDigits 2 s
  guard (hour ≤ 23 ∧ minute ≤ 59)
  let start := (hour * 60 + minute) * 60000000
  match takeChar ':' s with
  | none => return (start, s)
  | some s =>
    let (second, s) ← takeDigits 2 s
    guard (second ≤ 59)
    let (micros, s) ← readFraction s
    return (start + second * 1000000 + micros, s)

/-- Reads the zone that ends a text: nothing, `Z`, or a signed offset below a day. -/
def readZone : List Char → Option (Option Int)
  | [] => some none
  | c :: t =>
    if c = 'Z' ∨ c = 'z' then (if t.isEmpty then some (some 0) else none)
    else if c = '+' ∨ c = '-' ∨ c = '\u2212' then do
      let (hours, s) ← takeDigits 2 t
      let s := (takeChar ':' s).getD s
      let (minutes, s) ← takeDigits 2 s
      guard (minutes < 60 ∧ hours < 24 ∧ s.isEmpty)
      let offset : Int := hours * 60 + minutes
      return some (if c = '+' then offset else -offset)
    else none

/-- Reads a date, a separator, a time and a zone. -/
def readDateTime (s : List Char) : Option Stamp := do
  let (date, s) ← (readDate s).toOption
  let c ← s.head?
  guard (c = 'T' ∨ c = 't' ∨ c = ' ' ∨ c = '_')
  let (ofDay, s) ← readTime s.tail
  let zone ← readZone s
  return .ofParts date ofDay zone

/-! ## 4. Counts since 1970 -/

/-- The largest magnitude that is taken for seconds; beyond it a count is one of milliseconds. -/
def secondsLimit : Nat := 20000000000

/-- The stamp of an instant, if it lies in the years 0 to 9999. -/
def Stamp.ofMicros (micros : Int) : Except StampFlaw Stamp :=
  if micros < -62167219200000000 then .error .tooEarly
  else if 253402300800000000 ≤ micros then .error .tooLate
  else .ok (.ofInstant micros)

/-- The stamp of a whole count of seconds or milliseconds since 1970. -/
def Stamp.ofUnix (count : Int) : Except StampFlaw Stamp :=
  Stamp.ofMicros (if count.natAbs ≤ secondsLimit then count * 1000000 else count * 1000)

/-- The stamp of a count with a fraction. The whole part is rounded down, and the fraction above it
is rounded to the nearest microsecond; it is the magnitude with its fraction that tells seconds from
milliseconds. -/
def Stamp.ofFloat (x : Float) : Except StampFlaw Stamp :=
  match Number.Binary64.ofFloat x with
  | .nan => .error .notANumber
  | .infinite negative => .error (if negative then .tooEarly else .tooLate)
  | .finite negative mantissa exponent =>
    let cut := Number.truncate negative mantissa exponent
    let floor := if negative ∧ ¬ Number.isWhole mantissa exponent then cut - 1 else cut
    let unit : Nat := if Number.compareInt x.abs secondsLimit = some .gt then 1000 else 1000000
    let fraction :=
      match Number.Binary64.ofFloat ((x - x.floor) * Float.ofNat unit).round with
      | .finite _ m e => Number.wholePart m e
      | _ => 0
    Stamp.ofMicros (floor * unit + fraction)

/-- Reads a count without a fraction. One that does not fit in 63 bits is none. -/
def readWholeCount? (s : List Char) : Option Int :=
  let (negative, body) := Numeral.takeSign s
  match Numeral.plainRun Text.asciiDigitValue? body with
  | ([], _) => none
  | (ds, []) => if Numeral.worth ds < Nat.pow 2 63 then some (Numeral.signed negative ds) else none
  | _ => none

/-- Reads the exponent that ends a decimal number; nothing at all is zero. -/
def readExponent? : List Char → Option Int
  | [] => some 0
  | c :: t =>
    if c = 'e' ∨ c = 'E' then
      let (negative, body) := Numeral.takeSign t
      match Numeral.plainRun Text.asciiDigitValue? body with
      | ([], _) => none
      | (ds, []) => some (Numeral.signed negative ds)
      | _ => none
    else none

/-- Reads a count with a point: digits on one side of it at least, and perhaps an exponent. -/
def readPointCount? (s : List Char) : Option Float :=
  let (negative, body) := Numeral.takeSign s
  let (whole, rest) := Numeral.plainRun Text.asciiDigitValue? body
  match rest with
  | '.' :: t =>
    let (fraction, rest) := Numeral.plainRun Text.asciiDigitValue? t
    if whole.isEmpty && fraction.isEmpty then none
    else
      (readExponent? rest).map fun exponent =>
        Number.ofDecimal negative (Numeral.worth (whole ++ fraction)) (exponent - fraction.length)
  | _ => none

/-! ## 5. Whole texts -/

/-- Reads a text that is no date and time: a bare date stands for its midnight. -/
def readBareDate (s : List Char) : Except StampFlaw Stamp :=
  match readDate s with
  | .error flaw => .error flaw
  | .ok (date, []) => .ok (.ofParts date 0 none)
  | .ok (_, _ :: _) => .error .extra

/-- Reads a whole text as a stamp: a date and a time, a count, or a bare date. The flaw of a text
that is none of them is that of reading it as a bare date, except for a whole count. -/
def Stamp.read (text : String) : Except StampFlaw Stamp :=
  let s := text.toList
  match readDateTime s, readWholeCount? s with
  | some stamp, _ => .ok stamp
  | none, some count => Stamp.ofUnix count
  | none, none =>
    match (readPointCount? s).map Stamp.ofFloat with
    | some (.ok stamp) => .ok stamp
    | _ => readBareDate s

/-- The stamp itself, unless its wall shows the year 0. -/
def Stamp.checked (s : Stamp) : Except StampFlaw Stamp :=
  if s.date.year = 0 then .error .yearZero else .ok s

/-- **A checked stamp is the stamp it was, and shows a year of the calendar.** -/
theorem checked_eq_ok_iff {s t : Stamp} : s.checked = .ok t ↔ s = t ∧ s.date.year ≠ 0 := by
  unfold Stamp.checked
  split <;> simp_all

end Critique.Time
