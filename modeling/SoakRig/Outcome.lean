import SoakRig.Text.Search

/-!
# Outcomes of runs

How one run of the client is judged from its exit code, its output and whether it ran out of time.
-/

namespace SoakRig

/-- The status shown for a run. -/
inductive Status where
  | ok
  | fail
  | rateLimit
  | timeout
deriving DecidableEq

namespace Status

def all : List Status := [ok, fail, rateLimit, timeout]

def name : Status → String
  | ok => "OK"
  | fail => "FAIL"
  | rateLimit => "RATE_LIMIT"
  | timeout => "TIMEOUT"

end Status

/-- The verdict on a run. -/
structure Outcome where
  status : Status
  /-- The client retried a passing failure. -/
  retriable : Bool
  /-- The client hit a rate limit. -/
  rateLimited : Bool
  /-- The run ran out of time or ended with a code other than zero. -/
  crashed : Bool
deriving DecidableEq

namespace Outcome

/-- What the client prints when it retries. -/
def retriableMarker : String := "Retriable error"

/-- What the client prints when it hits a rate limit. -/
def rateLimitMarker : String := "Rate limit exceeded"

/-- The output holds a marker. -/
def marked (marker output : String) : Bool := Text.holds marker.toList output.toList

/-- Running out of time comes first, then a rate limit, then the exit code. -/
def statusOf (exitCode : Int32) (rateLimited timedOut : Bool) : Status :=
  if timedOut then .timeout
  else if rateLimited then .rateLimit
  else if exitCode = 0 then .ok
  else .fail

/-- Judges a run. -/
def classify (exitCode : Int32) (output : String) (timedOut : Bool) : Outcome :=
  let rateLimited := marked rateLimitMarker output
  { status := statusOf exitCode rateLimited timedOut
    retriable := marked retriableMarker output
    rateLimited
    crashed := timedOut || exitCode ≠ 0 }

/-- Only a clean run is a success. -/
def success (o : Outcome) : Bool := o.status = .ok

end Outcome

end SoakRig
