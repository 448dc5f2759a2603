import SoakRig.Path
import SoakRig.Text.Search
import SoakRig.Text.Utf8

/-!
# Environments

Variables with values made of bytes, and what the system knows of the user. A value that is not
well-formed text counts as unset wherever a text is asked for.
-/

namespace SoakRig

/-- The variables of a program, and its user. -/
structure Environment where
  bindings : List (String × List UInt8)
  /-- The home directory that the system has on record for the user, if it has one. -/
  recordedHome : Option Path := none

namespace Environment

def empty : Environment := { bindings := [] }

/-- The bytes of a variable, if it is set. -/
def bytes? (env : Environment) (name : String) : Option (List UInt8) :=
  (env.bindings.find? (·.1 = name)).map (·.2)

/-- The text of a variable, if it is set to well-formed text. -/
def text? (env : Environment) (name : String) : Option String :=
  (env.bytes? name).bind fun bytes => (Text.decode? bytes).map String.ofList

/-- The home directory: the one that is set, and else the one on record. -/
def home? (env : Environment) : Option Path :=
  (((env.bytes? "HOME").filter (· ≠ [])).map Path.mk).or env.recordedHome

/-- Stands for the home directory at the front of a path. -/
def homeMark : List Char := "~/".toList

/-- The path that a text spells, with the home directory in place of its mark. -/
def expandHome (env : Environment) (text : String) : Path :=
  match Text.strip? homeMark text.toList, env.home? with
  | some rest, some home => home.join (.ofText (String.ofList rest))
  | _, _ => .ofText text

end Environment

end SoakRig
