import SoakRig.Environment.Reader

/-!
# Log settings

How a program logs: from which level, in which form, and where to.
-/

namespace SoakRig.Log

/-- The form of the lines on the console. -/
inductive Format where
  | pretty
  | json
deriving DecidableEq

namespace Format

def name : Format → String
  | pretty => "pretty"
  | json => "json"

/-- The form with a name; everything but JSON is readable text. -/
def ofName (name : String) : Format := if name = "json" then json else pretty

end Format

/-- How a program logs. -/
structure Settings where
  /-- The level, or a whole filter. -/
  level : Setting String
  format : Format
  /-- The file that gets a copy in JSON, if any. -/
  file : Option Path
  /-- Console lines go to standard error. -/
  stderr : Bool
  /-- What was refused while the settings were read. -/
  warnings : List String

namespace Settings

def default : Settings := ⟨.ofDefault "info", .pretty, none, false, []⟩

/-- Reads the settings from the environment. -/
def ofEnvironment (env : Environment) (defaultLevel : String) : Settings :=
  let (level, r) := (Environment.Reader.ofEnvironment env).level "LOG_LEVEL" defaultLevel
  let (format, r) := r.choice "LOG_FORMAT" ["pretty", "json"] "pretty"
  { level
    format := .ofName format.value
    file := (r.path "LOG_FILE").value
    stderr := false
    warnings := r.take.1.map (·.message) }

def withLevel (s : Settings) (level : String) : Settings :=
  { s with level := .ofCommandLine level }

def withFile (s : Settings) (path : Path) : Settings := { s with file := some path }

def withStderr (s : Settings) : Settings := { s with stderr := true }

/-- One change to the settings. -/
inductive Change where
  | level (text : String)
  | file (path : Path)
  | stderr

/-- Makes one change. -/
def apply (s : Settings) : Change → Settings
  | .level text => s.withLevel text
  | .file path => s.withFile path
  | .stderr => s.withStderr

/-- Makes changes in order. -/
def applyAll (s : Settings) (changes : List Change) : Settings := changes.foldl apply s

end Settings

end SoakRig.Log
