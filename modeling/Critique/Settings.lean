/-
# Settings

What the environment says about the service and its clients. A variable that is not set has a
default; the name of the backend is taken in lower case and without blanks around it, the name of
the log level in upper case, and what the service listens on must be a numeral.

Main statements: `LogLevel.ofName_of_mem` (every name of a level stands for it),
`Threshold.ofName_level` (the name of a level stands for no other setting) and
`Settings.threshold_some` (a name that is given wins over the environment).
-/
import Critique.Text.Case
import Critique.Text.Numeral

namespace Critique

/-! ## 1. Log levels -/

/-- How severe a message must be to be logged. -/
inductive LogLevel where
  | notSet
  | debug
  | info
  | warning
  | error
  | critical
  deriving DecidableEq

namespace LogLevel

/-- The number of a level. -/
def number : LogLevel → Nat
  | notSet => 0
  | debug => 10
  | info => 20
  | warning => 30
  | error => 40
  | critical => 50

/-- The names of the levels; two levels have a second name. -/
def names : List (String × LogLevel) :=
  [("NOTSET", notSet), ("DEBUG", debug), ("INFO", info), ("WARNING", warning), ("WARN", warning),
    ("ERROR", error), ("CRITICAL", critical), ("FATAL", critical)]

/-- The level of a name. -/
def ofName? (name : String) : Option LogLevel :=
  (names.find? (·.1 == name)).map Prod.snd

/-- Every name in the list stands for its level. -/
theorem ofName_of_mem {name : String} {level : LogLevel} (h : (name, level) ∈ names) :
    ofName? name = some level := by
  simp only [names, List.mem_cons, List.not_mem_nil, or_false, Prod.mk.injEq] at h
  rcases h with ⟨rfl, rfl⟩ | ⟨rfl, rfl⟩ | ⟨rfl, rfl⟩ | ⟨rfl, rfl⟩ | ⟨rfl, rfl⟩ | ⟨rfl, rfl⟩ |
    ⟨rfl, rfl⟩ | ⟨rfl, rfl⟩ <;> rfl

end LogLevel

/-- What the name of a level may stand for: a level, or another setting of the log that goes by the
name, which is how a line is laid out or whether something is done. -/
inductive Threshold where
  | level (level : LogLevel)
  | layout (format : String)
  | done (value : Bool)
  deriving DecidableEq

namespace Threshold

/-- The layout of lines where none is asked for. -/
def basicLayout : String := "%(levelname)s:%(name)s:%(message)s"

/-- What the log does if nothing else is said. -/
def doneNames : List String :=
  ["raiseExceptions", "logThreads", "logMultiprocessing", "logProcesses"]

/-- What a name stands for; a name that is unknown stands for `INFO`. -/
def ofName (name : String) : Threshold :=
  match LogLevel.ofName? name with
  | some found => level found
  | none =>
    if name = "BASIC_FORMAT" then layout basicLayout
    else if doneNames.contains name then done true
    else level .info

/-- The name of a level stands for no other setting. -/
theorem ofName_level {name : String} {found : LogLevel} (h : LogLevel.ofName? name = some found) :
    ofName name = level found := by
  simp [ofName, h]

end Threshold

/-! ## 2. The environment -/

/-- The settings of the service and of its clients. -/
structure Settings where
  backend : String
  storeAddress : String
  logLevel : String
  host : String
  listensOn : Int
  serviceBase : String
  pageBase : String
  deriving DecidableEq

namespace Settings

/-- How a line of the log is laid out. -/
def logFormat : String := "%(asctime)s - %(levelname)s - %(message)s"

/-- Where the service is found if the environment does not say. -/
def defaultServiceBase : String := "http://localhost:8000"

/-- Where the page is found if the environment does not say. -/
def defaultPageBase : String := "http://localhost:8501"

/-- The settings that an environment makes. -/
def ofEnvironment (value? : String → Option String) : Except Numeral.Flaw Settings := do
  let value := fun name default => (value? name).getD default
  let listensOn ← Numeral.read (value "API_PORT" "8000")
  return {
    backend := String.ofList (Text.strip (Text.lower (value "STORAGE_BACKEND" "memory").toList))
    storeAddress := value "REDIS_URL" "redis://localhost:6379/0"
    logLevel := String.ofList (Text.upper (value "LOG_LEVEL" "INFO").toList)
    host := value "API_HOST" "0.0.0.0"
    listensOn := listensOn
    serviceBase := value "API_BASE" defaultServiceBase
    pageBase := value "UI_BASE" defaultPageBase }

/-- From where on messages are logged: as the name given says, or else the environment. -/
def threshold (s : Settings) (name : Option String) : Threshold :=
  .ofName (name.getD s.logLevel)

/-- A name that is given wins over the environment. -/
theorem threshold_some (s : Settings) (name : String) :
    s.threshold (some name) = .ofName name := rfl

end Settings

end Critique
