import SoakRig.Environment
import SoakRig.Masking
import SoakRig.Shell.Run
import SoakRig.Soak.Run

/-!
# Running targets as processes

A target runs with both its outputs on one pipe and nothing to read. It is finished when it has ended
and nobody holds the pipe any more; if that takes as long as the limit, it is killed and its output
is lost.
-/

namespace SoakRig.Execution

/-- The place that reports on processes. -/
def target : String := "faultline_common::runner"

/-- No run takes less than this many nanoseconds. -/
def leastTime : Nat := tenTo 6

/-- The program that the system would start for a name, or why it would not. -/
def findProgram (env : Environment) (files : FileTree) (name : String) :
    Except SystemError String :=
  let look (path : Path) : Except SystemError String := do
    let place ← files.resolve path
    match files.node? place with
    | some (.program p) => .ok p
    | _ => .error .permissionDenied
  if name.toList.contains '/' then look name
  else if name = "" then .error .notFound
  else
    let dirs : List Path :=
      match env.bytes? "PATH" with
      | some bytes => (Text.pieces 0x3A bytes).map Path.mk
      | none => ["/bin", "/usr/bin"]
    let found := dirs.map fun dir => look (dir.join name)
    match found.filterMap (·.toOption) with
    | p :: _ => .ok p
    | [] =>
      if found.any fun
        | .error .permissionDenied => true
        | _ => false
      then .error .permissionDenied
      else .error .notFound

/-- A session in which a program starts. -/
def session (env : Environment) (files : FileTree) (deadline : Nat) (name : String) :
    Shell.Session :=
  { Shell.Session.fresh files deadline name with
    bindings := env.bindings.map fun (name, bytes) => (name, Shell.Session.ofBytes bytes)
    exported := env.bindings.map (·.1) }

/-- Runs an installed program in a session. -/
def start (program name : String) (args : List String) (s : Shell.Session) : Shell.Session :=
  let args := args.map Shell.Session.spread
  match Shell.Tools.run? program s args with
  | some s' => s'
  | none => Shell.shell Shell.exec (Shell.Session.spread name) args s

/-- The exit code of a program that has ended: minus the signal if it died of one. -/
def exitCode (s : Shell.Session) : Int32 :=
  match s.flow with
  | .killed signal => Int32.ofInt (-signal)
  | _ => Int32.ofInt (s.finalStatus % 256)

/-- What was written to the common pipe, in the order of time. -/
def output (s : Shell.Session) : String :=
  let pieces := s.writes.reverse.mergeSort fun a b => a.1 ≤ b.1
  Text.shown (pieces.flatMap (·.2.2))

/-- When a program has ended and nobody holds the pipe any more. -/
def endTime (s : Shell.Session) : Nat := max s.time s.heldByJobs + leastTime

/-- What is reported before a program starts. -/
def spawnRecord (t : Target) (args : List String) (timeout : Duration) : Log.Record :=
  ⟨.debug, target, some "spawning target", [
    ("command", .shown (Masking.mask (t.display args))),
    ("timeout_secs", .number timeout.seconds)]⟩

/-- What is reported when a program has ended. -/
def exitRecord (exitCode : Int32) (duration : Duration) : Log.Record :=
  ⟨.debug, target, some "target exited", [
    ("exit_code", .integer exitCode.toInt),
    ("duration_ms", .integer duration.milliseconds)]⟩

/-- What is reported when a program has run out of time. -/
def timeoutRecord (t : Target) (timeout : Duration) : Log.Record :=
  ⟨.warn, target, some "target timed out, killing", [
    ("program", .shown t.program),
    ("timeout_secs", .number timeout.seconds)]⟩

/-- The program that a target and its arguments ask for, or why it cannot be started. -/
def prepare (env : Environment) (t : Target) (args : List String) (files : FileTree) :
    Except SystemError String :=
  if (t.program :: t.argv args).any fun text => text.toList.contains '\x00' then
    .error .zeroInArgument
  else findProgram env files t.program

/-- Runs a target once. -/
def run (env : Environment) (t : Target) (args : List String) (timeout : Duration)
    (world : World) : Soak.Attempt × World :=
  let world := world.report (spawnRecord t args timeout)
  match prepare env t args world.files with
  | .error e => (.failed (.spawn t.program e), world)
  | .ok program =>
    let s := start program t.program (t.argv args)
      (session env world.files timeout.nanoseconds t.program)
    let world := { world with files := { s.files with here := world.files.here } }
    if s.flow = .stuck ∨ timeout.nanoseconds ≤ endTime s then
      (.timedOut, (world.pass timeout).report (timeoutRecord t timeout))
    else
      let duration : Duration := ⟨endTime s⟩
      (.completed (exitCode s) (output s) duration,
        (world.pass duration).report (exitRecord (exitCode s) duration))

/-- The runner of a target. -/
def runner (env : Environment) (t : Target) : Soak.Runner Unit where
  program := t.program
  run := fun args timeout state world =>
    let (attempt, world) := run env t args timeout world
    (attempt, state, world)

/-- Runs a target with one list of arguments after another. -/
def runAll (env : Environment) (t : Target) (timeout : Duration) :
    List (List String) → World → List Soak.Attempt × World
  | [], world => ([], world)
  | args :: more, world =>
    let (attempt, world) := run env t args timeout world
    let (attempts, world) := runAll env t timeout more world
    (attempt :: attempts, world)

end SoakRig.Execution
