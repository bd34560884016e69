/-
# Addresses of servers

The address of a server has a scheme, an authority and perhaps options behind a `?`. The authority
may name a user, a host and a number behind a colon; the server listens on that number. A host by
number stands between brackets. An address may be refused for each of these parts, and the first
flaw in a fixed order is the one that is told: the scheme, the brackets, the host between them,
characters that look like separators, the options in order, the number, and how many connections
there may be.

Main statements: `check_scheme` (what has no known scheme is refused for that) and
`firstValues_names` (of several values of an option the first counts).
-/
import Critique.Store.Host

namespace Critique

/-! ## 1. Causes of refusal -/

/-- Why an address is refused. -/
inductive AddressFlaw where
  | scheme
  | bracket
  | futureHost
  | bracketedQuad
  | unknownHost (host : String)
  | lookalike (authority : String)
  | option (name : String)
  | unreadNumber (text : String)
  | longNumber (flaw : Numeral.Flaw)
  | numberRange
  | connections
  deriving DecidableEq

/-- A text in quotes. -/
def inQuotes (s : String) : String :=
  String.ofList (Text.quoted s.toList)

/-- The wording of a refusal. -/
def AddressFlaw.message : AddressFlaw → String
  | .scheme => "Redis URL must specify one of the following schemes (redis://, rediss://, unix://)"
  | .bracket => "Invalid IPv6 URL"
  | .futureHost => "IPvFuture address is invalid"
  | .bracketedQuad => "An IPv4 address cannot be in brackets"
  | .unknownHost host => inQuotes host ++ " does not appear to be an IPv4 or IPv6 address"
  | .lookalike authority =>
    "netloc '" ++ authority ++ "' contains invalid characters under NFKC normalization"
  | .option name => "Invalid value for '" ++ name ++ "' in connection URL."
  | .unreadNumber text => "Port could not be cast to integer value as " ++ inQuotes text
  | .longNumber flaw => flaw.message
  | .numberRange => "Port out of range 0-65535"
  | .connections => "\"max_connections\" must be a positive integer"

/-! ## 2. Parts -/

/-- How a server is reached: over the net, perhaps in secret, or by a file. -/
inductive Scheme where
  | plain
  | secret
  | file
  deriving DecidableEq

/-- What the addresses of a scheme begin with. -/
def Scheme.mark : Scheme → String
  | plain => "redis://"
  | secret => "rediss://"
  | file => "unix://"

/-- All schemes. -/
def Scheme.all : List Scheme := [plain, secret, file]

/-- The scheme of an address. -/
def Scheme.ofAddress? (address : List Char) : Option Scheme :=
  all.find? fun scheme => Text.begins address scheme.mark

/-- A scheme, an authority and the options in order. -/
structure Address where
  scheme : Scheme
  authority : List Char
  options : List (String × String)

namespace Address

/-- Known values and one more, unless its name has a value already. -/
def addFirst (known : List (String × String)) (pair : String × String) :
    List (String × String) :=
  if known.any (·.1 == pair.1) then known else known ++ [pair]

/-- Of several values of a name, only the first one. -/
def firstValues (pairs : List (String × String)) : List (String × String) :=
  pairs.foldl addFirst []

/-- The options of a query. What has no value is none, and a value is decoded twice, a name once. -/
def optionsOf (query : List Char) : List (String × String) :=
  let parts := (Text.parts '&' query).filter fun part => !(Http.splitFirst '=' part).2.isEmpty
  (firstValues (parts.map Http.queryPair)).map fun (name, value) =>
    (name, Http.decoded value.toList)

/-- The parts of an address of a known scheme. Tabs and the ends of lines do not count. -/
def ofText? (text : String) : Option Address := do
  let scheme ← Scheme.ofAddress? text.toList
  let bare := text.toList.filter fun c => c != '\t' && c != '\r' && c != '\n'
  let isDelimiter := fun c => c == '/' || c == '?' || c == '#'
  let rest := bare.drop scheme.mark.length
  let behind := rest.dropWhile (!isDelimiter ·)
  let (_, query) := Http.splitFirst '?' (Http.splitFirst '#' behind).1
  return ⟨scheme, rest.takeWhile (!isDelimiter ·), optionsOf query⟩

/-- What stands behind the user, if there is one. -/
def location (a : Address) : List Char :=
  (a.authority.reverse.takeWhile (· != '@')).reverse

/-- What stands behind the colon that follows the host. -/
def numberText (a : Address) : List Char :=
  let location := a.location
  let behindHost :=
    if location.contains '[' then (Http.splitFirst ']' (Http.splitFirst '[' location).2).2
    else location
  (Http.splitFirst ':' behindHost).2

/-! ## 3. Checks -/

/-- What is wrong with the brackets of an address, or with the host between them. -/
def hostFlaw? (a : Address) : Option AddressFlaw :=
  let opens := a.authority.contains '['
  if opens != a.authority.contains ']' then some .bracket
  else if !opens then none
  else
    let host := (Http.splitFirst ']' (Http.splitFirst '[' a.authority).2).1
    if host.head? = some 'v' then (if Host.isFuture host then none else some .futureHost)
    else if Host.isQuad host then some .bracketedQuad
    else if Host.isGroups host then none
    else some (.unknownHost (String.ofList host))

/-- Characters whose plain form has a slash, a question mark, a number sign, an at sign or a colon
in it. -/
def lookalikes : List Char :=
  ['\u2047', '\u2048', '\u2049', '\u2100', '\u2101', '\u2105', '\u2106', '\u2A74', '\uFE13',
    '\uFE16', '\uFE55', '\uFE56', '\uFE5F', '\uFE6B', '\uFF03', '\uFF0F', '\uFF1A', '\uFF1F',
    '\uFF20']

/-- Whether an authority has characters in it that look like separators. -/
def lookalikeFlaw? (a : Address) : Option AddressFlaw :=
  if a.authority.any lookalikes.contains then some (.lookalike (String.ofList a.authority))
  else none

/-- The options that must be whole numbers. -/
def wholeOptions : List String := ["db", "max_connections", "health_check_interval"]

/-- The options that must be numbers. -/
def realOptions : List String := ["socket_timeout", "socket_connect_timeout", "timeout"]

/-- Whether an option has a value that it may have; an option that is unknown may have any. -/
def optionFits (option : String × String) : Bool :=
  if wholeOptions.contains option.1 then (Numeral.read option.2).toOption.isSome
  else if realOptions.contains option.1 then Numeral.spellsReal option.2
  else true

/-- The first option whose value does not fit. -/
def optionFlaw? (a : Address) : Option AddressFlaw :=
  (a.options.find? (!optionFits ·)).map fun option => .option option.1

/-- What is wrong with the number behind the host. A file has none. -/
def numberFlaw? (a : Address) : Option AddressFlaw :=
  let text := a.numberText
  if a.scheme = .file ∨ text = [] then none
  else
    match Numeral.plainRun Text.asciiDigitValue? text with
    | (ds, []) =>
      match Numeral.withinLimit false ds with
      | .error flaw => some (.longNumber flaw)
      | .ok n => if n ≤ 65535 then none else some .numberRange
    | _ => some (.unreadNumber (String.ofList text))

/-- Whether the number of connections that are allowed is less than none. -/
def connectionsFlaw? (a : Address) : Option AddressFlaw := do
  let (_, value) ← a.options.find? (·.1 == "max_connections")
  let count ← (Numeral.read value).toOption
  if count < 0 then some .connections else none

/-- The first flaw of an address, in the order in which they are looked for. -/
def flaw? (a : Address) : Option AddressFlaw :=
  [hostFlaw?, lookalikeFlaw?, optionFlaw?, numberFlaw?, connectionsFlaw?].findSome? (· a)

/-- Refuses an address with a flaw. -/
def check (text : String) : Except AddressFlaw Unit :=
  match ofText? text with
  | none => .error .scheme
  | some address =>
    match address.flaw? with
    | some flaw => .error flaw
    | none => .ok ()

/-- What has no known scheme is refused for that, whatever else is wrong with it. -/
theorem check_scheme {text : String} (unknown : Scheme.ofAddress? text.toList = none) :
    check text = .error .scheme := by
  simp [check, ofText?, unknown]

/-- One more value leaves names that stand once as they are. -/
theorem addFirst_names {known : List (String × String)} (once : (known.map Prod.fst).Nodup)
    (pair : String × String) : ((addFirst known pair).map Prod.fst).Nodup := by
  unfold addFirst
  split
  · exact once
  · rename_i fresh
    simp only [List.any_eq_true, beq_iff_eq, not_exists, not_and] at fresh
    rw [List.map_append, List.nodup_append]
    refine ⟨once, by simp, ?_⟩
    intro a ha b hb
    obtain ⟨entry, member, rfl⟩ := List.mem_map.1 ha
    simp only [List.map_cons, List.map_nil, List.mem_singleton] at hb
    exact hb ▸ fresh entry member

/-- Of several values of an option the first counts: no name stands twice. -/
theorem firstValues_names (pairs : List (String × String)) :
    ((firstValues pairs).map Prod.fst).Nodup := by
  have once : ∀ known : List (String × String), (known.map Prod.fst).Nodup →
      ((pairs.foldl addFirst known).map Prod.fst).Nodup := by
    induction pairs with
    | nil => exact fun _ h => h
    | cons pair rest ih => exact fun known h => ih (addFirst known pair) (addFirst_names h pair)
  exact once [] List.nodup_nil

end Address

end Critique
