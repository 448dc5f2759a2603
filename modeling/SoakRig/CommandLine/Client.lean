import SoakRig.CommandLine.Grammar
import SoakRig.Seconds
import SoakRig.Soak.Config

/-!
# The command line of the soak client

Options of a soak, then the command of the client under test.
-/

namespace SoakRig.CommandLine.Client

/-- What has been given so far. -/
structure Draft where
  jar : Option String
  java : Option String
  exec : Option String
  iterations : Option UInt32
  sleep : Option Duration
  timeout : Option Duration
  logDir : Option Path
  verbose : Bool
  command : List String

namespace Draft

def empty : Draft := ⟨none, none, none, none, none, none, none, false, []⟩

/-- A program by itself goes before a jar. -/
def target (d : Draft) : Target :=
  match d.exec with
  | some program => .direct program
  | none => .javaJar (d.java.getD Target.defaultJava) (d.jar.getD Target.defaultJar)

/-- The soak that is asked for. -/
def config (d : Draft) : Soak.Config :=
  let base := Soak.Config.of d.target d.command
  { base with
    iterations := d.iterations.getD base.iterations
    sleep := d.sleep.getD base.sleep
    timeout := d.timeout.getD base.timeout
    verbose := d.verbose
    logDir := d.logDir }

end Draft

/-- Why a text is no length of time, as a reason. -/
def seconds (r : Except Seconds.Error Duration) : Except Reason Duration :=
  r.mapError fun e => .because e.message

/-- The number of iterations that a text stands for, or why it stands for none. -/
def count (text : String) : Except Reason UInt32 :=
  (wholeNumber 0 (twoTo 32 - 1) text).map fun n => UInt32.ofNat n.toNat

/-- The pause that a text stands for, or why it stands for none. -/
def pause (text : String) : Except Reason Duration := seconds (Seconds.pause text)

/-- The limit that a text stands for, or why it stands for none. -/
def limit (text : String) : Except Reason Duration := seconds (Seconds.limit text)

def jar : Spec Draft where
  long := "jar"
  short := none
  valueName := some "JAR"
  variableName := some "FAULTLINE_JAR"
  isSet := fun d => d.jar.isSome
  set := fun value d => (ofText .ok value).map fun text => { d with jar := some text }

def java : Spec Draft where
  long := "java"
  short := none
  valueName := some "JAVA"
  variableName := some "FAULTLINE_JAVA"
  isSet := fun d => d.java.isSome
  set := fun value d => (ofText .ok value).map fun text => { d with java := some text }

def exec : Spec Draft where
  long := "exec"
  short := none
  valueName := some "EXEC"
  variableName := some "FAULTLINE_EXEC"
  isSet := fun d => d.exec.isSome
  set := fun value d => (ofText .ok value).map fun text => { d with exec := some text }

def iterations : Spec Draft where
  long := "iterations"
  short := some 'n'
  valueName := some "ITERATIONS"
  variableName := some "FAULTLINE_ITERATIONS"
  isSet := fun d => d.iterations.isSome
  set := fun value d => (ofText count value).map fun n => { d with iterations := some n }

def sleep : Spec Draft where
  long := "sleep"
  short := none
  valueName := some "SLEEP"
  variableName := some "FAULTLINE_SLEEP"
  isSet := fun d => d.sleep.isSome
  set := fun value d => (ofText pause value).map fun t => { d with sleep := some t }

def timeout : Spec Draft where
  long := "timeout"
  short := none
  valueName := some "TIMEOUT"
  variableName := some "FAULTLINE_TIMEOUT"
  isSet := fun d => d.timeout.isSome
  set := fun value d => (ofText limit value).map fun t => { d with timeout := some t }

def logDir : Spec Draft where
  long := "log-dir"
  short := none
  valueName := some "LOG_DIR"
  variableName := some "FAULTLINE_LOG_DIR"
  isSet := fun d => d.logDir.isSome
  set := fun value d =>
    if value = [] then .error .missing else .ok { d with logDir := some ⟨value⟩ }

def verbose : Spec Draft where
  long := "verbose"
  short := some 'v'
  valueName := none
  variableName := none
  isSet := fun d => d.verbose
  set := fun _ d => .ok { d with verbose := true }

/-- The options of a soak, with a command behind them. -/
def grammar : Grammar Draft where
  specs := [jar, java, exec, iterations, sleep, timeout, logDir, verbose]
  command := some fun tokens d => { d with command := tokens }

/-- Reads a command line. -/
def read (env : Environment) (args : List (List UInt8)) : Except Fault Draft :=
  grammar.read env args .empty

end SoakRig.CommandLine.Client
