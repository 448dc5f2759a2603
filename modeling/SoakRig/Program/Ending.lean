import SoakRig.CommandLine.Grammar
import SoakRig.Log.Output

/-!
# How programs end

An exit code, what was written, and the files that are left. The lines on standard error are those
of the log, and after them what the program says when it gives up. A panic is told with the place in
the sources where it starts, and ends the program in the way it was built for.
-/

namespace SoakRig.Program

/-- The version of the programs. -/
def version : String := "0.3.1"

/-- How programs are built and started, as far as a panic tells of it. -/
structure Build where
  /-- A panic unwinds the stack. Otherwise it aborts the program. -/
  unwinds : Bool
  /-- The file of the sources in which log files are opened. -/
  appender : String
  /-- The number of the main thread. -/
  thread : Nat
  /-- The lines of a backtrace, for those who ask for one. -/
  backtrace : List String

namespace Build

/-- The exit code of a panic: minus the signal of a program that is aborted. -/
def panicCode (b : Build) : Int32 := if b.unwinds then 101 else -6

/-- The variable that asks for a backtrace. -/
def backtraceVariable : String := "RUST_BACKTRACE"

/-- What follows the message of a panic. -/
def trace (b : Build) (env : Environment) : List String :=
  if ((env.bytes? backtraceVariable).getD (Text.utf8 ['0'])) = Text.utf8 ['0'] then
    ["note: run with `" ++ backtraceVariable ++
      "=1` environment variable to display a backtrace"]
  else b.backtrace

/-- The lines that tell of a panic of the file appender. -/
def panicLines (b : Build) (env : Environment) (place message : String) : List String :=
  ["",
    "thread 'main' (" ++ String.ofList (Decimal.natural b.thread) ++ ") panicked at " ++
      b.appender ++ ":" ++ place ++ ":",
    message] ++ b.trace env

end Build

/-- How a program ends. -/
structure Ending where
  /-- Minus the signal if the program dies of one. -/
  exitCode : Int32
  /-- The bytes on standard output. -/
  output : List UInt8
  /-- The records on the console. -/
  records : List Log.Record
  format : Log.Format
  /-- The lines that follow on standard error. -/
  complaint : List String
  files : FileTree

namespace Ending

/-- The exit code as shells count it: signals from 128 on. -/
def status (e : Ending) : Nat :=
  if e.exitCode < 0 then 128 + (-e.exitCode).toInt.toNat else e.exitCode.toInt.toNat

/-- The lines on standard error. -/
def errorLines (e : Ending) (time : String) : List String :=
  e.records.map (Log.Output.consoleLine e.format time) ++ e.complaint

/-- A program whose command line asks for nothing more than a text, or is at fault. -/
def ofFault (name : String) (files : FileTree) : CommandLine.Fault → Ending
  | .version =>
    ⟨0, Text.utf8 (name ++ " " ++ version ++ "\n").toList, [], .pretty, [], files⟩
  | .help => ⟨0, Text.utf8 ("Usage: " ++ name ++ "\n").toList, [], .pretty, [], files⟩
  | fault => ⟨fault.exitCode, [], [], .pretty, fault.lines, files⟩

/-- A program whose log is not started. -/
def ofOutputError (b : Build) (env : Environment) (files : FileTree) (e : Log.OutputError) :
    Ending :=
  match e.panicPlace? with
  | some place => ⟨b.panicCode, [], [], .pretty, b.panicLines env place e.message, files⟩
  | none => ⟨1, [], [], .pretty, ["Error: " ++ e.message], files⟩

/-- A program that ran with a log. -/
def ofRun (log : Log.Output) (world : World) (exitCode : Int32) (output : List UInt8)
    (complaint : List String) : Ending where
  exitCode
  output
  records := log.passing world.records
  format := log.format
  complaint
  files := log.keep (Timestamp.render world.now) world.records world.files

end Ending

/-- An error as a program shows it, with what caused it. -/
def complaintOf (message : String) (cause : Option SystemError) : List String :=
  match cause with
  | none => ["Error: " ++ message]
  | some e => ["Error: " ++ message, "", "Caused by:", "    " ++ e.message]

/-- The world after some records. -/
def reportAll (records : List Log.Record) (world : World) : World :=
  records.foldl World.report world

end SoakRig.Program
