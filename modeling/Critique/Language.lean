/-
# Languages

The four languages that the catalog has rules of its own for. Sources may claim any other language;
they are held to the general rules alone.

Main statements: `Language.ofName?_name` and `Language.ofLabel?_label` (a language is known by its
name and by its label), `labelOf_name` (the label of a language's name is its label).
-/

namespace Critique

/-- A language with rules of its own. -/
inductive Language where
  | javascript
  | python
  | typescript
  | java
  deriving DecidableEq

namespace Language

/-- The name of a language in data. -/
def name : Language → String
  | javascript => "javascript"
  | python => "python"
  | typescript => "typescript"
  | java => "java"

/-- The name of a language as it is offered for choice. -/
def label : Language → String
  | javascript => "JavaScript"
  | python => "Python"
  | typescript => "TypeScript"
  | java => "Java"

/-- All languages, in the order in which they are offered. -/
def all : List Language := [javascript, python, typescript, java]

/-- The language of a name. -/
def ofName? (name : String) : Option Language :=
  all.find? (·.name == name)

/-- The language of a label. -/
def ofLabel? (label : String) : Option Language :=
  all.find? (·.label == label)

theorem ofName?_name (l : Language) : ofName? l.name = some l := by
  cases l <;> rfl

theorem ofLabel?_label (l : Language) : ofLabel? l.label = some l := by
  cases l <;> rfl

/-- The label of the language of a name; Python stands in for names that are unknown. -/
def labelOf (name : String) : String :=
  ((ofName? name).getD python).label

theorem labelOf_name (l : Language) : labelOf l.name = l.label := by
  simp [labelOf, ofName?_name]

/-- Whether the name is one of the two languages that can be rewritten. -/
def isScript (name : String) : Bool :=
  name == javascript.name || name == typescript.name

end Language

end Critique
