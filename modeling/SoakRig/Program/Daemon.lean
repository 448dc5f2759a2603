import SoakRig.CommandLine.Daemon
import SoakRig.Http.Router
import SoakRig.Network
import SoakRig.Program.Ending

/-!
# The mock exchange

Reads the command line, starts the log, listens, answers whoever comes, and stops when told to.
-/

namespace SoakRig.Program.Daemon

def name : String := "faultlined"

/-- The place that reports on connections. -/
def connectionTarget : String := "axum::serve"

/-- The settings of the log. -/
def settings (env : Environment) (verbose : Bool) : Log.Settings :=
  let s := (Log.Settings.ofEnvironment env "info").withStderr
  if verbose then s.withLevel "debug" else s

/-- A report of the program itself. -/
def info (message : String) : Log.Record := .ofMessage .info name message

/-- What is reported about an endpoint at the start. -/
def endpointRecord (e : Endpoint) : Log.Record :=
  match e.cycle? with
  | some n =>
    info ("Scripted endpoint " ++ e.path ++ " (cycle " ++ String.ofList (Decimal.natural n) ++ ")")
  | none => info ("Stateless endpoint " ++ e.path)

/-- What is reported at the start. -/
def openingRecords : List Log.Record :=
  info "Starting Faultline daemon..." :: Endpoint.all.map endpointRecord

/-- What is reported once the program listens. -/
def listeningRecord (address : String) : Log.Record :=
  .ofMessage .info Http.target ("Mock exchange listening on http://" ++ address)

/-- What is reported when the program is told to stop and nobody is connected any more. -/
def closingRecords : List Log.Record := [
  info "Shutdown signal received, draining connections",
  .ofMessage .trace connectionTarget
    "received graceful shutdown signal. Telling tasks to shutdown",
  .ofMessage .trace connectionTarget "signal received, not accepting new connections",
  .ofMessage .trace connectionTarget "waiting for 0 task(s) to finish",
  info "Faultline daemon stopped"]

/-- A request as it is sent. -/
structure Visit where
  method : String
  uri : String

/-- The answer to a request that cannot be read. -/
def unreadable : Http.Answer := ⟨400, none, none, .none⟩

/-- Answers one request. -/
def answer (network : Network) (server : Http.Server) (c : Counters) (v : Visit) (world : World) :
    Except SystemError Http.Answer × Counters × World :=
  match network.connect with
  | .error e => (.error e, c, world)
  | .ok () =>
    match Http.Uri.ofText? v.uri with
    | none => (.ok unreadable, c, world)
    | some uri =>
      let (a, c, records) := Http.handle server c ⟨v.method, uri, world.now⟩
      (.ok a, c, reportAll records world)

/-- Answers requests in order. -/
def answerAll (network : Network) (server : Http.Server) :
    Counters → List Visit → World → List (Except SystemError Http.Answer) × World
  | _, [], world => ([], world)
  | c, v :: vs, world =>
    let (a, c, world) := answer network server c v world
    let (as, world) := answerAll network server c vs world
    (a :: as, world)

/-- Listens with a log, answers the visits, and stops. -/
def serve (network : Network) (log : Log.Output) (draft : CommandLine.Daemon.Draft)
    (visits : List Visit) (world : World) :
    List (Except SystemError Http.Answer) × Ending :=
  let world := reportAll openingRecords world
  match network.listen draft.address draft.portNumber with
  | .error e =>
    ([], .ofRun log world 1 []
      (complaintOf ("Failed to bind " ++ draft.address.withPort draft.portNumber) (some e)))
  | .ok port =>
    let world := world.report (listeningRecord (draft.address.withPort port))
    let (answers, world) := answerAll network ⟨version, 1, 0⟩ .zero visits world
    (answers, .ofRun log (reportAll closingRecords world) 0 [] [])

/-- Runs the program until it is told to stop after some visits. -/
def run (build : Build) (network : Network) (env : Environment) (args : List (List UInt8))
    (visits : List Visit) (world : World) : List (Except SystemError Http.Answer) × Ending :=
  match CommandLine.Daemon.read env args with
  | .error fault => ([], .ofFault name world.files fault)
  | .ok draft =>
    let s := settings env draft.verbose
    match Log.Output.start env s world.files with
    | (.error e, files) => ([], .ofOutputError build env files e)
    | (.ok log, files) =>
      serve network log draft visits (reportAll (Log.Output.opening s) { world with files })

end SoakRig.Program.Daemon
