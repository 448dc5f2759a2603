import SoakRig.Path
import SoakRig.SystemError

/-!
# Errors of a soak

What keeps a run, or a whole soak, from happening.
-/

namespace SoakRig.Soak

/-- What keeps a run or a soak from happening. -/
inductive Error where
  | emptyCommand
  | spawn (program : String) (cause : SystemError)
  | logWrite (path : Path) (cause : SystemError)
  | io (cause : SystemError)
deriving DecidableEq

namespace Error

/-- The name of the kind of error. -/
def kind : Error → String
  | emptyCommand => "EmptyCommand"
  | spawn .. => "Spawn"
  | logWrite .. => "LogWrite"
  | io _ => "Io"

def message : Error → String
  | emptyCommand => "No command provided. Example: -- balances"
  | spawn program cause => "Failed to start " ++ program ++ ": " ++ cause.message
  | logWrite path cause => "Failed to write log " ++ path.display ++ ": " ++ cause.message
  | io cause => "IO error: " ++ cause.message

/-- The error below this one, if there is one. -/
def cause? : Error → Option SystemError
  | emptyCommand => none
  | spawn _ cause => some cause
  | logWrite _ cause => some cause
  | io cause => some cause

end Error

end SoakRig.Soak
