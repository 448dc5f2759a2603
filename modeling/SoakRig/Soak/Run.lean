import SoakRig.Soak.Config
import SoakRig.Soak.Summary
import SoakRig.Template
import SoakRig.World

/-!
# Running a soak

The iterations run one after another, whatever becomes of each; a soak ends early only for lack of
a command, of a log directory, or of room for its text.
-/

namespace SoakRig.Soak

/-- The place that reports on soaks. -/
def target : String := "faultline_common::soak"

/-- Whatever can run the client once. It may keep a state of its own. -/
structure Runner (σ : Type) where
  /-- The name of the program in reports. -/
  program : String
  run : List String → Duration → σ → World → Attempt × σ × World

/-- One call of the runner. -/
structure Call where
  args : List String
  /-- The time that had passed. -/
  elapsed : Duration
  timeout : Duration
  /-- What became of it. -/
  attempt : Attempt

/-- How far a soak has come. -/
structure Progress (σ : Type) where
  state : σ
  world : World
  out : Sink
  tally : Tally
  /-- The calls of the runner, newest first. -/
  calls : List Call

namespace Progress

variable {σ : Type}

/-- Before anything has happened. -/
def start (state : σ) (world : World) (out : Sink) : Progress σ :=
  ⟨state, world, out, .empty, []⟩

/-- One more report. -/
def report (p : Progress σ) (r : Log.Record) : Progress σ :=
  { p with world := p.world.report r }

/-- Writes text, given in pieces. -/
def write (p : Progress σ) (texts : List String) : Except Error Unit × Progress σ :=
  match p.out.writeAll texts with
  | (.ok (), out) => (.ok (), { p with out })
  | (.error e, out) => (.error (.io e), { p with out })

end Progress

/-- What is reported before an iteration. -/
def pendingRecord (index : UInt32) (args : List String) : Log.Record :=
  ⟨.debug, target, some "iteration pending",
    [("iteration", .integer index.toNat), ("args", .list args)]⟩

/-- What is reported about a run that could not happen. -/
def failureRecord (index : UInt32) (e : Error) : Log.Record :=
  ⟨.warn, target, some ("Iteration could not run: " ++ e.message),
    [("iteration", .integer index.toNat)]⟩

/-- The world after the output of an iteration was written to its file, or that was refused. -/
def keepOutput (config : Config) (index : UInt32) (output : String) (w : World) : World :=
  match config.logPath index with
  | none => w
  | some path =>
    match w.files.write path (Text.utf8 output.toList) with
    | (.ok (), files) => { w with files }
    | (.error e, files) =>
      { w with files }.report (.ofMessage .warn target (Error.logWrite path e).message)

/-- The world after an attempt was taken note of. -/
def note (config : Config) (index : UInt32) (attempt : Attempt) (w : World) : World :=
  match attempt with
  | .completed _ output _ => keepOutput config index output w
  | .timedOut => w
  | .failed e => w.report (failureRecord index e)

variable {σ : Type}

/-- Runs the client once. -/
def call (runner : Runner σ) (config : Config) (index : UInt32) (p : Progress σ) :
    Attempt × Progress σ :=
  let args := Template.render config.command index p.world.now
  let world := p.world.report (pendingRecord index args)
  let (attempt, state, world) := runner.run args config.timeout p.state world
  (attempt,
    { p with state, world, calls := ⟨args, p.world.elapsed, config.timeout, attempt⟩ :: p.calls })

/-- Runs one iteration and tells what became of it. -/
def iterate (runner : Runner σ) (config : Config) (index : UInt32) (p : Progress σ) :
    Except Error Attempt × Progress σ :=
  let (attempt, p) := call runner config index p
  let p := { p with world := note config index attempt p.world }
  match p.write (pieces config.verbose config.timeout index attempt) with
  | (.error e, p) => (.error e, p)
  | (.ok (), p) =>
    (.ok attempt, { p with tally := p.tally.record (Iteration.ofAttempt index attempt) })

/-- The world after the pause between an iteration and the next one, of which so many are left. -/
def pause (config : Config) (left : Nat) (attempt : Attempt) (w : World) : World :=
  if attempt.paced ∧ left ≠ 0 ∧ config.sleep ≠ .zero then w.sleep config.sleep else w

/-- Runs so many iterations, the first of which has the given index. -/
def iterations (runner : Runner σ) (config : Config) :
    (left index : Nat) → Progress σ → Except Error Unit × Progress σ
  | 0, _, p => (.ok (), p)
  | left + 1, index, p =>
    match iterate runner config (UInt32.ofNat index) p with
    | (.error e, p) => (.error e, p)
    | (.ok attempt, p) =>
      iterations runner config left (index + 1)
        { p with world := pause config left attempt p.world }

/-- Makes the log directory, if there is to be one. -/
def prepare (config : Config) (w : World) : Except Error Unit × World :=
  match config.logDir with
  | none => (.ok (), w)
  | some dir =>
    match w.files.makeDirectories dir with
    | (.ok (), files) => (.ok (), { w with files })
    | (.error e, files) => (.error (.io e), { w with files })

/-- What is reported at the start. -/
def startRecord (program : String) (config : Config) : Log.Record :=
  ⟨.info, target, some "starting soak run", [
    ("program", .text program),
    ("iterations", .integer config.iterations.toNat),
    ("timeout_secs", .number config.timeout.seconds)]⟩

/-- What is reported at the end. -/
def endRecord (s : Summary) : Log.Record :=
  ⟨.info, target, some "soak run finished", [
    ("crashes", .integer s.crashes.toNat),
    ("successes", .integer s.successes.toNat),
    ("exit_code", .integer s.exitCode.toInt)]⟩

/-- Sums up and writes the report. -/
def finish (config : Config) (p : Progress σ) : Except Error Summary × Progress σ :=
  let summary := Summary.ofTally config.command config.iterations p.tally
  match p.write [summary.render] with
  | (.error e, p) => (.error e, p)
  | (.ok (), p) => (.ok summary, p.report (endRecord summary))

/-- Runs a soak. -/
def run (runner : Runner σ) (config : Config) (p : Progress σ) :
    Except Error Summary × Progress σ :=
  if config.command = [] then (.error .emptyCommand, p)
  else
    match prepare config p.world with
    | (.error e, world) => (.error e, { p with world })
    | (.ok (), world) =>
      let p := { p with world := world.report (startRecord runner.program config) }
      match iterations runner config config.iterations.toNat 1 p with
      | (.error e, p) => (.error e, p)
      | (.ok (), p) => finish config p

/-- Attempts that are known beforehand, and the one that every further call gets. -/
structure Script where
  attempts : List Attempt
  fallback : Attempt

/-- A runner that follows a script. Each call moves the time of day on by `step` milliseconds. -/
def scripted (step : Int) : Runner Script where
  program := "scripted"
  run := fun _ _ script world =>
    let world := { world with clock := fun d => world.clock d + step }
    match script.attempts with
    | [] => (script.fallback, script, world)
    | attempt :: attempts => (attempt, { script with attempts }, world)

end SoakRig.Soak
