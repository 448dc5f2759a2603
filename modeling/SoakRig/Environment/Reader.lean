import SoakRig.Environment
import SoakRig.Setting
import SoakRig.Text.Lowercase

/-!
# Reading settings from the environment

A reader looks up settings by short names and keeps a list of the values it had to refuse. What it
answers depends on the environment alone; the list only ever tells of refusals.
-/

namespace SoakRig

/-- Why the value of a variable was refused. -/
inductive Refusal where
  | choice (variableName : String) (choices : List String) (value : String)
  | level (variableName value : String)
deriving DecidableEq

namespace Refusal

/-- The name of the kind of refusal. -/
def kind : Refusal → String
  | choice .. => "InvalidValue"
  | level .. => "InvalidLogLevel"

def message : Refusal → String
  | choice variableName choices value =>
    "Invalid value for " ++ variableName ++ ": expected " ++ String.intercalate "|" choices ++
      ", got '" ++ value ++ "'"
  | level variableName value => "Invalid log level for " ++ variableName ++ ": " ++ value

end Refusal

namespace Environment

/-- The full name of the variable of a setting. -/
def variableName (name : String) : String := "FAULTLINE_" ++ name

/-- A reader of an environment with the refusals that nobody has taken yet. -/
structure Reader where
  environment : Environment
  pending : List Refusal

namespace Reader

/-- A reader that has refused nothing. -/
def ofEnvironment (environment : Environment) : Reader := ⟨environment, []⟩

/-- Something was refused and not taken yet. -/
def hasPending (r : Reader) : Bool := !r.pending.isEmpty

/-- The reader with one more refusal. -/
def refuse (r : Reader) (refusal : Refusal) : Reader :=
  { r with pending := r.pending ++ [refusal] }

/-- The texts that are log levels. -/
def levels : List String := ["trace", "debug", "info", "warn", "error", "off"]

/-- Reads a text that has to be one of some choices, in any case. -/
def among (r : Reader) (name : String) (choices : List String) (default : String)
    (refusal : String → Refusal) : Setting String × Reader :=
  let full := variableName name
  match r.environment.text? full with
  | none => (.ofDefault default, r)
  | some value =>
    let lower := Text.lowercase value
    if choices.contains lower then (.ofEnvironment lower full, r)
    else (.ofEnvironment default full, r.refuse (refusal value))

/-- Reads one of some choices. -/
def choice (r : Reader) (name : String) (choices : List String) (default : String) :
    Setting String × Reader :=
  r.among name choices default (.choice (variableName name) choices)

/-- Reads a log level. -/
def level (r : Reader) (name default : String) : Setting String × Reader :=
  r.among name levels default (.level (variableName name))

/-- Reads a text; an empty one counts as none. -/
def text (r : Reader) (name : String) : Setting (Option String) :=
  let full := variableName name
  match r.environment.text? full with
  | none => .ofDefault none
  | some value => .ofEnvironment (if value = "" then none else some value) full

/-- Reads a path; an empty one counts as none. -/
def path (r : Reader) (name : String) : Setting (Option Path) :=
  (r.text name).map (·.map r.environment.expandHome)

/-- Takes the refusals away. -/
def take (r : Reader) : List Refusal × Reader := (r.pending, { r with pending := [] })

/-- What can be asked of a reader. -/
inductive Call where
  | choice (name : String) (choices : List String) (default : String)
  | level (name default : String)
  | text (name : String)
  | path (name : String)
  | take

/-- What a reader answers. -/
inductive Reply where
  | required (setting : Setting String)
  | optional (setting : Setting (Option String))
  | located (setting : Setting (Option Path))
  | taken (refusals : List Refusal)

/-- Answers one call. -/
def answer (r : Reader) : Call → Reply × Reader
  | .choice name choices default =>
    let (setting, r') := r.choice name choices default
    (.required setting, r')
  | .level name default =>
    let (setting, r') := r.level name default
    (.required setting, r')
  | .text name => (.optional (r.text name), r)
  | .path name => (.located (r.path name), r)
  | .take =>
    let (refusals, r') := r.take
    (.taken refusals, r')

/-- Answers calls in order; with each reply comes what is pending after it. -/
def answers (r : Reader) : List Call → List (Reply × List Refusal) × Reader
  | [] => ([], r)
  | call :: calls =>
    let (reply, r') := r.answer call
    let (replies, last) := r'.answers calls
    ((reply, r'.pending) :: replies, last)

end Reader

end Environment

end SoakRig
