import SoakRig.Address
import SoakRig.CommandLine.Grammar

/-!
# The command line of the mock exchange

The address and the port to listen on.
-/

namespace SoakRig.CommandLine.Daemon

/-- What has been given so far. -/
structure Draft where
  host : Option Address
  port : Option UInt16
  verbose : Bool

namespace Draft

def empty : Draft := ⟨none, none, false⟩

/-- The address to listen on. -/
def address (d : Draft) : Address := d.host.getD (.v4 127 0 0 1)

/-- The port to listen on. -/
def portNumber (d : Draft) : UInt16 := d.port.getD 8080

end Draft

/-- The address that a text stands for, or why it stands for none. -/
def address (text : String) : Except Reason Address :=
  match Address.ofText? text with
  | some a => .ok a
  | none => .error (.because "invalid IP address syntax")

def host : Spec Draft where
  long := "host"
  short := none
  valueName := some "HOST"
  variableName := some "FAULTLINE_HOST"
  isSet := fun d => d.host.isSome
  set := fun value d => (ofText address value).map fun a => { d with host := some a }

def port : Spec Draft where
  long := "port"
  short := some 'p'
  valueName := some "PORT"
  variableName := some "FAULTLINE_PORT"
  isSet := fun d => d.port.isSome
  set := fun value d =>
    (ofText (wholeNumber 0 (twoTo 16 - 1)) value).map fun n =>
      { d with port := some (UInt16.ofNat n.toNat) }

def verbose : Spec Draft where
  long := "verbose"
  short := some 'v'
  valueName := none
  variableName := none
  isSet := fun d => d.verbose
  set := fun _ d => .ok { d with verbose := true }

/-- The options of the mock exchange. It takes no command. -/
def grammar : Grammar Draft where
  specs := [host, port, verbose]
  command := none

/-- Reads a command line. -/
def read (env : Environment) (args : List (List UInt8)) : Except Fault Draft :=
  grammar.read env args .empty

end SoakRig.CommandLine.Daemon
