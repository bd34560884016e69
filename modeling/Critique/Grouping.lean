/-
# Grouping

Findings that say the same thing are collapsed into one, in the order in which they were first
seen. The first of a group lends its kind and severity; the entry stands on the smallest line of the
group, and its message says which lines there are: two lines by name, up to five in a list, more by
their number. A finding that stands alone is left as it is.

A line is named by its numeral, so a group in which there is none for a line that is to be named
cannot be merged, and then nothing is shown at all (`group`). The lines of a report are counted, and
there are never so many that one of them has no numeral; what is shown of them is written down
without that concern (`shown`).

Main statements: `gather_flatten` (gathering loses nothing but order: the groups hold as many
findings as there were) and `group_singleton` (one finding is its own group).
-/
import Critique.Finding
import Critique.Text.Numeral

namespace Critique.Grouping

/-! ## 1. Gathering -/

/-- Puts a finding into the group of its key, or into a new group at the end. -/
def insert (f : Finding) : List (List Finding) → List (List Finding)
  | [] => [[f]]
  | group :: rest =>
    if group.head?.map Finding.key = some f.key then (group ++ [f]) :: rest
    else group :: insert f rest

/-- The groups of a list of findings, in the order in which their keys were first seen. -/
def gather (fs : List Finding) : List (List Finding) :=
  fs.foldl (fun groups f => insert f groups) []

theorem length_flatten_insert (f : Finding) (groups : List (List Finding)) :
    (insert f groups).flatten.length = groups.flatten.length + 1 := by
  induction groups with
  | nil => rfl
  | cons group rest ih =>
    unfold insert
    split
    · simp only [List.flatten_cons, List.length_append, List.length_singleton]
      omega
    · simp only [List.flatten_cons, List.length_append, ih]
      omega

/-- The groups hold as many findings as there were. -/
theorem gather_flatten (fs : List Finding) : (gather fs).flatten.length = fs.length := by
  have step : ∀ (fs : List Finding) (groups : List (List Finding)),
      (fs.foldl (fun groups f => insert f groups) groups).flatten.length =
        groups.flatten.length + fs.length := by
    intro fs
    induction fs with
    | nil => simp
    | cons f fs ih =>
      intro groups
      simp only [List.foldl_cons, ih, length_flatten_insert, List.length_cons]
      omega
  simpa [gather] using step fs []

/-! ## 2. Merging -/

/-- The lines that are named: all of them, if there are five at most. -/
def named (lines : List Nat) : List Nat :=
  if lines.length ≤ 5 then lines else []

/-- What a message says about so many lines, with the names of those that are named. -/
def wording (count : Nat) (names : List String) : String :=
  match names with
  | [a, b] => " (lines " ++ a ++ " and " ++ b ++ ")"
  | _ =>
    if count ≤ 5 then " (lines " ++ ", ".intercalate names ++ ")"
    else " (" ++ Numeral.text count ++ " occurrences)"

/-- What a message says about the lines of its group, in ascending order. -/
def suffix (lines : List Nat) : Except Numeral.Flaw String := do
  return wording lines.length (← (named lines).mapM fun (n : Nat) => Numeral.writtenWithin n)

/-- The lines of a group in ascending order. -/
def sortedLines (group : List Finding) : List Nat :=
  (group.map Finding.line).mergeSort (· ≤ ·)

/-- A finding that stands for others on some lines, with what its message goes on to say. -/
def standIn (f : Finding) (lines : List Nat) (more : String) : Finding :=
  { f with line := lines.headD f.line, message := f.message ++ more }

/-- The one finding that stands for a group. -/
def merge : List Finding → Except Numeral.Flaw (Option Finding)
  | [] => return none
  | [f] => return some f
  | f :: rest => do
    let lines := sortedLines (f :: rest)
    return some (standIn f lines (← suffix lines))

/-- **The findings with those that say the same thing collapsed into one.** -/
def group (fs : List Finding) : Except Numeral.Flaw (List Finding) := do
  return (← (gather fs).mapM merge).filterMap id

@[simp] theorem group_nil : group [] = .ok [] := rfl

@[simp] theorem group_singleton (f : Finding) : group [f] = .ok [f] := rfl

/-- The findings grouped again and again: what each time is shown, until once they cannot be
merged. -/
def stages : Nat → List Finding → List (List Finding)
  | 0, _ => []
  | times + 1, fs =>
    match group fs with
    | .ok merged => merged :: stages times merged
    | .error _ => []

/-! ## 3. Lines that are counted -/

/-- What a message says about lines that all have numerals. -/
def remark (lines : List Nat) : String :=
  wording lines.length ((named lines).map fun (n : Nat) => Numeral.text n)

/-- The one finding that stands for a group whose lines all have numerals. -/
def shownOf? : List Finding → Option Finding
  | [] => none
  | [f] => some f
  | f :: rest =>
    let lines := sortedLines (f :: rest)
    some (standIn f lines (remark lines))

/-- What is shown of findings whose lines all have numerals. -/
def shown (fs : List Finding) : List Finding :=
  (gather fs).filterMap shownOf?

end Critique.Grouping
