import SoakRig.Program.Client
import SoakRig.Program.Daemon

/-!
# Command line

The first word names a program, and the others are its arguments. Programs run in a fresh tree of
files, on a machine without a network.
-/

namespace SoakRig.Program

/-- The variables that the programs look at. -/
def variableNames : List String :=
  ["HOME", "PATH", Log.Output.filterVariable, Build.backtraceVariable] ++
  ["LOG_LEVEL", "LOG_FORMAT", "LOG_FILE"].map Environment.variableName ++
  CommandLine.Client.grammar.specs.filterMap (·.variableName) ++
  CommandLine.Daemon.grammar.specs.filterMap (·.variableName)

/-- Programs as they are released: a panic aborts them. -/
def released : Build where
  unwinds := false
  appender := "tracing-appender-0.2.5/src/rolling.rs"
  thread := 1
  backtrace := ["stack backtrace:"]

/-- The program of a name. -/
def named (env : Environment) (world : World) (name : String) (args : List (List UInt8)) :
    Ending :=
  if name = Daemon.name then (Daemon.run released .isolated env args [] world).2
  else Client.run released env args .unbounded world

/-- The environment of this process, as far as the programs look at it. -/
def environment : IO Environment := do
  let found ← variableNames.mapM fun name => do
    return (name, ← IO.getEnv name)
  return {
    bindings := found.filterMap fun (name, value) =>
      value.map fun v => (name, Text.utf8 v.toList) }

/-- Writes what a program has written. -/
def display (time : String) (e : Ending) : IO Unit := do
  let out ← IO.getStdout
  out.write ⟨e.output.toArray⟩
  out.flush
  let err ← IO.getStderr
  for line in e.errorLines time do
    err.putStrLn line

end SoakRig.Program

open SoakRig in
def main (args : List String) : IO UInt32 := do
  let start : Int ← IO.monoMsNow
  let world : World :=
    { files := .fresh, clock := fun d => start + d.milliseconds, elapsed := .zero, journal := [] }
  let env ← Program.environment
  let words := args.tail.map fun word => Text.utf8 word.toList
  let e := Program.named env world (args.headD Program.Client.name) words
  Program.display (Timestamp.render world.now) e
  return UInt32.ofNat e.status
