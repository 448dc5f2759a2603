import SoakRig.Binary64.Literal
import SoakRig.Duration

/-!
# Texts of lengths of time

A length of time is given as a number of seconds. A pause may be zero, a limit may not.
-/

namespace SoakRig.Seconds

/-- Why a text is no length of time. -/
inductive Error where
  | notANumber (text : String)
  | outOfRange (text : String)
  | zeroLimit
deriving DecidableEq

def Error.message : Error → String
  | .notANumber text => "'" ++ text ++ "' is not a number of seconds"
  | .outOfRange text => "'" ++ text ++ "' must be a finite, non-negative number of seconds"
  | .zeroLimit => "timeout must be greater than zero"

/-- Reads a pause. -/
def pause (text : String) : Except Error Duration :=
  match Binary64.ofText? text.toList with
  | none => .error (.notANumber text)
  | some x =>
    match Duration.ofSeconds? x with
    | none => .error (.outOfRange text)
    | some d => .ok d

/-- Reads a limit. -/
def limit (text : String) : Except Error Duration :=
  match pause text with
  | .error e => .error e
  | .ok d => if d = .zero then .error .zeroLimit else .ok d

end SoakRig.Seconds
