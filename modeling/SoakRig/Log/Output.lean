import SoakRig.Log.Filter
import SoakRig.Log.Settings
import SoakRig.Timestamp
import SoakRig.World

/-!
# Log outputs

A log that has been started from its settings. Records that pass the filter go to the console in the
form that was chosen, and to the file, if there is one, in JSON. A log whose file has no place to
stand is not started.
-/

namespace SoakRig.Log

/-- The place that reports on logging itself. -/
def target : String := "faultline_common::logging"

/-- Why a log is not started. -/
inductive OutputError where
  /-- The path of the file ends in no name. -/
  | noFileName (path : Path)
  /-- The directory of the file cannot be made. -/
  | directory (cause : SystemError)
  /-- The name of the file is no text. -/
  | nameNotText
  /-- The file itself cannot be opened. -/
  | file (cause : SystemError)
deriving DecidableEq

namespace OutputError

def message : OutputError → String
  | noFileName path => "Log file path has no file name: " ++ path.display
  | directory cause => cause.message
  | nameNotText => "filename prefix must be a valid UTF-8 string"
  | file cause =>
    "initializing rolling file appender failed: InitError \x7b context: " ++
      Text.quoted "failed to create log file" ++ ", source: " ++ cause.details ++ " \x7d"

/-- The line and the column at which the file appender panics, where it does not return the error. -/
def panicPlace? : OutputError → Option String
  | nameNotText => some "151:14"
  | file _ => some "156:14"
  | _ => none

end OutputError

/-- A log that has been started. -/
structure Output where
  filter : Filter
  format : Format
  /-- The file that gets a copy, if any. -/
  file : Option Path
  /-- Console lines go to standard error. -/
  stderr : Bool

namespace Output

/-- The variable that goes before the level of the settings. -/
def filterVariable : String := "RUST_LOG"

/-- The filter of a log: that of the environment if it has no faults, else the level. -/
def filterOf (env : Environment) (s : Settings) : Filter :=
  match (env.text? filterVariable).bind Filter.ofText? with
  | some filter => filter
  | none => Filter.ofText s.level.value

/-- The directory that a log file stands in. -/
def directoryOf (path : Path) : Path :=
  match path.parent? with
  | none => "."
  | some parent => if parent.bytes = [] then "." else parent

/-- Makes a log file with the directories above it; the path with which it is written. -/
def makeFile (path : Path) (files : FileTree) : Except OutputError Path × FileTree :=
  match path.fileName? with
  | none => (.error (.noFileName path), files)
  | some name =>
    match files.makeDirectories (directoryOf path) with
    | (.error e, files) => (.error (.directory e), files)
    | (.ok (), files) =>
      if (Text.decode? name).isNone then (.error .nameNotText, files)
      else
        let full := (directoryOf path).join ⟨name⟩
        match files.append full [] with
        | (.error e, files) => (.error (.file e), files)
        | (.ok (), files) => (.ok full, files)

/-- Starts a log. -/
def start (env : Environment) (s : Settings) (files : FileTree) :
    Except OutputError Output × FileTree :=
  let output : Output := ⟨filterOf env s, s.format, none, s.stderr⟩
  match s.file with
  | none => (.ok output, files)
  | some path =>
    match makeFile path files with
    | (.error e, files) => (.error e, files)
    | (.ok full, files) => (.ok { output with file := some full }, files)

/-- What a log starts with: its level, and what was refused while the settings were read. -/
def opening (s : Settings) : List Record :=
  ⟨.debug, target, some "logging initialized",
    [("level", .shown s.level.value), ("source", .shown s.level.origin)]⟩ ::
  s.warnings.map fun warning => .ofMessage .warn target warning

/-- The records that are written. -/
def passing (o : Output) (rs : List Record) : List Record := rs.filter o.filter.lets

/-- A record as a line on the console. -/
def consoleLine (format : Format) (time : String) (r : Record) : String :=
  match format with
  | .pretty => r.readableLine time
  | .json => r.structuredLine time

/-- The text of records in a file. -/
def fileText (time : String) (rs : List Record) : String :=
  String.join (rs.map fun r => r.structuredLine time ++ "\n")

/-- Adds records to the file of the log. -/
def keep (o : Output) (time : String) (rs : List Record) (files : FileTree) : FileTree :=
  match o.file with
  | none => files
  | some path => (files.append path (Text.utf8 (fileText time (o.passing rs)).toList)).2

end Output

end SoakRig.Log
