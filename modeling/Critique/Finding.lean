/-
# Findings

A finding is one remark about a source: what kind it is, how grave, the line it stands on (line 0
for the source as a whole), and two texts. Findings with the same message and category say the same
thing about different lines; the pair is their `key`.

A `Tally` counts the findings of a list by kind.

Main statements: `Kind.ofName?_name` and `Severity.ofName?_name` (a kind is known by its name),
`Tally.sum_eq_total` (the four counts of a tally add up to its total).
-/

namespace Critique

/-! ## 1. Kinds and severities -/

/-- What a finding is about. -/
inductive Kind where
  | error
  | warning
  | suggestion
  | optimization
  deriving DecidableEq

/-- The name of a kind. -/
def Kind.name : Kind → String
  | .error => "error"
  | .warning => "warning"
  | .suggestion => "suggestion"
  | .optimization => "optimization"

/-- All kinds. -/
def Kind.all : List Kind := [.error, .warning, .suggestion, .optimization]

/-- The kind of a name. -/
def Kind.ofName? (name : String) : Option Kind :=
  Kind.all.find? (·.name == name)

theorem Kind.ofName?_name (k : Kind) : Kind.ofName? k.name = some k := by
  cases k <;> rfl

/-- How grave a finding is. -/
inductive Severity where
  | high
  | medium
  | low
  deriving DecidableEq

/-- The name of a severity. -/
def Severity.name : Severity → String
  | .high => "high"
  | .medium => "medium"
  | .low => "low"

/-- All severities. -/
def Severity.all : List Severity := [.high, .medium, .low]

/-- The severity of a name. -/
def Severity.ofName? (name : String) : Option Severity :=
  Severity.all.find? (·.name == name)

theorem Severity.ofName?_name (s : Severity) : Severity.ofName? s.name = some s := by
  cases s <;> rfl

/-! ## 2. Findings -/

/-- One remark about a source; line 0 stands for the source as a whole. -/
structure Finding where
  kind : Kind
  severity : Severity
  line : Nat
  message : String
  category : String
  deriving DecidableEq

/-- What a finding says, whatever line it stands on. -/
def Finding.key (f : Finding) : String × String :=
  (f.message, f.category)

/-! ## 3. Tallies -/

/-- Findings counted by kind. -/
structure Tally where
  total : Int
  errors : Int
  warnings : Int
  suggestions : Int
  optimizations : Int
  deriving DecidableEq

/-- Nothing counted. -/
def Tally.zero : Tally := ⟨0, 0, 0, 0, 0⟩

/-- The number of findings of a kind. -/
def countKind (k : Kind) (fs : List Finding) : Nat :=
  fs.countP (·.kind == k)

/-- The tally of a list of findings. -/
def Tally.ofFindings (fs : List Finding) : Tally :=
  { total := fs.length
    errors := countKind .error fs
    warnings := countKind .warning fs
    suggestions := countKind .suggestion fs
    optimizations := countKind .optimization fs }

/-- The four counts of a tally add up to its total. -/
theorem Tally.sum_eq_total (fs : List Finding) :
    (Tally.ofFindings fs).errors + (Tally.ofFindings fs).warnings
      + (Tally.ofFindings fs).suggestions + (Tally.ofFindings fs).optimizations
      = (Tally.ofFindings fs).total := by
  simp only [Tally.ofFindings]
  induction fs with
  | nil => rfl
  | cons f fs ih =>
    simp only [countKind, List.countP_cons, List.length_cons] at ih ⊢
    cases h : f.kind <;> simp <;> omega

end Critique
