import SoakRig.Decimal.Fixed
import SoakRig.Duration
import SoakRig.Outcome
import SoakRig.Soak.Error

/-!
# Iterations

What became of one run of the client, how it is judged, and the block of text that tells of it.
-/

namespace SoakRig.Soak

/-- What became of one run of the client. -/
inductive Attempt where
  | completed (exitCode : Int32) (output : String) (duration : Duration)
  | timedOut
  | failed (error : Error)

namespace Attempt

/-- The run ended by itself. -/
def ended : Attempt → Bool
  | completed .. => true
  | _ => false

/-- A pause follows the run; running out of time took long enough. -/
def paced : Attempt → Bool
  | timedOut => false
  | _ => true

end Attempt

/-- The exit code that stands for having none. -/
def noExitCode : Int32 := -1

/-- One finished iteration. -/
structure Iteration where
  /-- Counted from one. -/
  index : UInt32
  exitCode : Option Int32
  /-- How long the run took, if it ended by itself. -/
  seconds : Option Binary64
  outcome : Outcome
deriving DecidableEq

namespace Iteration

/-- Judges a run. -/
def ofAttempt (index : UInt32) : Attempt → Iteration
  | .completed exitCode output duration =>
    ⟨index, some exitCode, some duration.seconds, .classify exitCode output false⟩
  | .timedOut => ⟨index, none, none, .classify noExitCode "" true⟩
  | .failed _ => ⟨index, some noExitCode, none, .classify noExitCode "" false⟩

end Iteration

/-- The number of an iteration between brackets. -/
def indexTag (index : UInt32) : String :=
  "[" ++ String.ofList (Decimal.padded 3 index.toNat) ++ "]"

/-- The pieces of the line that tells of an iteration, in the order they are written. -/
def statusPieces (timeout : Duration) (index : UInt32) (attempt : Attempt) : List String :=
  match attempt with
  | .completed exitCode _ duration =>
    let outcome := (Iteration.ofAttempt index attempt).outcome
    [indexTag index, " ", outcome.status.name,
      " exit=", String.ofList (Decimal.integer exitCode.toInt),
      " elapsed=", Decimal.fixed 2 duration.seconds, "s",
      " retriable=", if outcome.retriable then "Y" else "N", "\n"]
  | .timedOut => [indexTag index, " TIMEOUT after ", Decimal.fixed 1 timeout.seconds, "s\n"]
  | .failed error => [indexTag index, " FAIL exit=-1 error=", error.message, "\n"]

/-- The pieces in which the output is repeated in front of the status line. -/
def echoPieces (verbose : Bool) : Attempt → List String
  | .completed _ output _ => if verbose then [output, "\n"] else []
  | _ => []

/-- The pieces of the text that tells of an iteration, in the order they are written. -/
def pieces (verbose : Bool) (timeout : Duration) (index : UInt32) (attempt : Attempt) :
    List String :=
  echoPieces verbose attempt ++ statusPieces timeout index attempt

/-- The line that tells of an iteration. -/
def statusLine (timeout : Duration) (index : UInt32) (attempt : Attempt) : String :=
  String.join (statusPieces timeout index attempt)

/-- What of the output is repeated in front of the status line. -/
def echoed (verbose : Bool) (attempt : Attempt) : String :=
  String.join (echoPieces verbose attempt)

/-- The text that tells of an iteration. -/
def block (verbose : Bool) (timeout : Duration) (index : UInt32) (attempt : Attempt) : String :=
  echoed verbose attempt ++ statusLine timeout index attempt

/-- The pieces make up the text. -/
@[simp] theorem join_pieces (verbose : Bool) (timeout : Duration) (index : UInt32)
    (attempt : Attempt) :
    String.join (pieces verbose timeout index attempt) = block verbose timeout index attempt := by
  simp only [pieces, block, echoed, statusLine, String.join_append]

end SoakRig.Soak
