import SoakRig.Soak.Iteration
import SoakRig.Timing

/-!
# Summaries

Counting what became of the iterations, and the report on a whole soak.
-/

namespace SoakRig.Soak

/-- What has been counted so far. -/
structure Tally where
  successes : Nat
  rateLimits : Nat
  retriableSeen : Nat
  crashes : Nat
  /-- The durations of the runs that ended by themselves, newest first. -/
  durations : List Binary64

namespace Tally

def empty : Tally := ⟨0, 0, 0, 0, []⟩

/-- One if it holds. -/
def one (b : Bool) : Nat := if b then 1 else 0

/-- Counts an iteration. -/
def record (t : Tally) (i : Iteration) : Tally where
  successes := t.successes + one i.outcome.success
  rateLimits := t.rateLimits + one (i.outcome.status = .rateLimit)
  retriableSeen := t.retriableSeen + one i.outcome.retriable
  crashes := t.crashes + one i.outcome.crashed
  durations := i.seconds.toList ++ t.durations

end Tally

/-- The report on a whole soak. -/
structure Summary where
  /-- The tokens of the command with blanks between them. -/
  command : String
  iterations : UInt32
  successes : UInt32
  rateLimits : UInt32
  retriableSeen : UInt32
  crashes : UInt32
  /-- How many durations the timing is made from. -/
  samples : UInt64
  timing : Timing
deriving DecidableEq

/-- The exit code that tells of a crash, or that there was nothing to run. -/
def crashExitCode : Int32 := 2

namespace Summary

/-- The report on a tally. -/
def ofTally (command : List String) (iterations : UInt32) (t : Tally) : Summary where
  command := String.intercalate " " command
  iterations
  successes := UInt32.ofNat t.successes
  rateLimits := UInt32.ofNat t.rateLimits
  retriableSeen := UInt32.ofNat t.retriableSeen
  crashes := UInt32.ofNat t.crashes
  samples := UInt64.ofNat t.durations.length
  timing := Timing.ofSamples t.durations.reverse

/-- The exit code that the report stands for. -/
def exitCode (s : Summary) : Int32 := if s.crashes = 0 then 0 else crashExitCode

/-- One line of the report with a count. -/
def countLine (name : String) (n : UInt32) : String :=
  "  " ++ name ++ ": " ++ String.ofList (Decimal.natural n.toNat) ++ "\n"

/-- One line of the report with a time. -/
def timeLine (name : String) (x : Binary64) : String :=
  "    " ++ name ++ ": " ++ Decimal.fixed 2 x ++ "\n"

/-- The text of the report. -/
def render (s : Summary) : String :=
  "\nSummary:\n  command: " ++ s.command ++ "\n" ++
    countLine "iterations" s.iterations ++
    countLine "successes" s.successes ++
    countLine "rate_limits" s.rateLimits ++
    countLine "retriable_seen" s.retriableSeen ++
    countLine "crashes (non-zero or timeout)" s.crashes ++
    "  timing (seconds):\n" ++
    timeLine "avg" s.timing.avg ++
    timeLine "p50" s.timing.p50 ++
    timeLine "p95" s.timing.p95 ++
    timeLine "min" s.timing.min ++
    timeLine "max" s.timing.max

end Summary

end SoakRig.Soak
