import SoakRig.CommandLine.Client
import SoakRig.Execution
import SoakRig.Program.Ending

/-!
# The soak client

Reads the command line, starts the log, and runs the soak that is asked for. The exit code tells
whether a run crashed.
-/

namespace SoakRig.Program.Client

def name : String := "faultline"

/-- The settings of the log. -/
def settings (env : Environment) : Log.Settings :=
  (Log.Settings.ofEnvironment env "warn").withStderr

/-- What is reported about the soak that is asked for. -/
def configRecord (config : Soak.Config) : Log.Record :=
  ⟨.debug, name, some "soak configuration", [
    ("target_command", .shown (Masking.mask (config.target.display config.command))),
    ("iterations", .integer config.iterations.toNat)]⟩

/-- Runs a soak with a log, on targets that are run in some way. -/
def soak {σ : Type} (runnerOf : Target → Soak.Runner σ) (state : σ) (log : Log.Output)
    (config : Soak.Config) (out : Sink) (world : World) : Ending :=
  let world := world.report (configRecord config)
  let (result, p) := Soak.run (runnerOf config.target) config (.start state world out)
  match result with
  | .ok summary => .ofRun log p.world summary.exitCode p.out.bytes []
  | .error e => .ofRun log p.world 1 p.out.bytes (complaintOf e.message e.cause?)

/-- Runs what was read from a command line, with a log. -/
def serve {σ : Type} (runnerOf : Target → Soak.Runner σ) (state : σ) (log : Log.Output)
    (draft : CommandLine.Client.Draft) (out : Sink) (world : World) : Ending :=
  if Soak.stripSeparator draft.command = [] then
    .ofRun log world Soak.crashExitCode out.bytes ["ERROR: " ++ Soak.Error.emptyCommand.message]
  else soak runnerOf state log draft.config out world

/-- Runs the program on targets that are run in some way. -/
def runWith {σ : Type} (runnerOf : Target → Soak.Runner σ) (state : σ) (build : Build)
    (env : Environment) (args : List (List UInt8)) (out : Sink) (world : World) : Ending :=
  match CommandLine.Client.read env args with
  | .error fault => .ofFault name world.files fault
  | .ok draft =>
    match Log.Output.start env (settings env) world.files with
    | (.error e, files) => .ofOutputError build env files e
    | (.ok log, files) =>
      serve runnerOf state log draft out
        (reportAll (Log.Output.opening (settings env)) { world with files })

/-- Runs the program. -/
def run (build : Build) (env : Environment) (args : List (List UInt8)) (out : Sink)
    (world : World) : Ending :=
  runWith (Execution.runner env) () build env args out world

end SoakRig.Program.Client
