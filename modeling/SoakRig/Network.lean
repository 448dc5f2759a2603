import SoakRig.Address
import SoakRig.SystemError

/-!
# Networks

What a program can listen on, and whether anybody reaches it there.
-/

namespace SoakRig

/-- The network of a machine. -/
structure Network where
  /-- Programs may listen on ports below the first free one. -/
  lowPorts : Bool
  /-- Connections to the machine itself come about. -/
  loopback : Bool
  /-- The port that is given to a program that asks for none. -/
  sparePort : UInt16

namespace Network

/-- The first port that everybody may listen on. -/
def firstFreePort : UInt16 := 1024

/-- A machine that is cut off from everything, itself included. -/
def isolated : Network := ⟨false, false, 40000⟩

/-- The machine has the address. -/
def hasAddress : Address → Bool
  | .v4 a b c d => a = 127 || (a = 0 && b = 0 && c = 0 && d = 0)
  | .v6 groups => groups.all (· = 0)

/-- Listens on a port of an address; the port that it is. -/
def listen (n : Network) (address : Address) (port : UInt16) : Except SystemError UInt16 :=
  if port ≠ 0 ∧ port < firstFreePort ∧ !n.lowPorts then .error .permissionDenied
  else if !hasAddress address then .error .addressNotAvailable
  else .ok (if port = 0 then n.sparePort else port)

/-- Whether a connection to a program on the same machine comes about. -/
def connect (n : Network) : Except SystemError Unit :=
  if n.loopback then .ok () else .error .networkUnreachable

end Network

end SoakRig
