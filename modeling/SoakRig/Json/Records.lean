import SoakRig.Endpoint
import SoakRig.Json.Reading
import SoakRig.Setting
import SoakRig.Soak.Summary
import SoakRig.Target

/-!
# Records of results

The JSON values of endpoints, statuses, outcomes, targets, timings, iterations and summaries, and the
reading of them back.
-/

namespace SoakRig

namespace Endpoint

def toJson (e : Endpoint) : Json := .string e.name

def ofJson? (j : Json) : Option Endpoint := j.named? all name

end Endpoint

namespace Status

def toJson (s : Status) : Json := .string s.name

def ofJson? (j : Json) : Option Status := j.named? all name

end Status

namespace Source

def toJson (s : Source) : Json := .string s.name

def ofJson? (j : Json) : Option Source := j.named? all name

end Source

namespace Outcome

def toJson (o : Outcome) : Json :=
  .object [
    ("status", o.status.toJson),
    ("retriable", .bool o.retriable),
    ("rate_limited", .bool o.rateLimited),
    ("crashed", .bool o.crashed)]

def ofJson? (j : Json) : Option Outcome :=
  match j.slots? ["status", "retriable", "rate_limited", "crashed"] false with
  | some [status, retriable, rateLimited, crashed] => do
    return {
      status := ← Json.required Status.ofJson? status
      retriable := ← Json.required Json.bool? retriable
      rateLimited := ← Json.required Json.bool? rateLimited
      crashed := ← Json.required Json.bool? crashed }
  | _ => none

end Outcome

namespace Target

def toJson (t : Target) : Json :=
  .object [
    ("program", .string t.program),
    ("prefix", .array (t.leading.map .string))]

/-- A target that names no leading arguments has none. -/
def ofJson? (j : Json) : Option Target :=
  match j.slots? ["program", "prefix"] true with
  | some [program, leading] => do
    return {
      program := ← Json.required Json.string? program
      leading := ← match leading with
        | none => some []
        | some items => items.list? Json.string? }
  | _ => none

end Target

namespace Timing

def toJson (t : Timing) : Json :=
  .object [
    ("avg", .ofBinary64 t.avg),
    ("p50", .ofBinary64 t.p50),
    ("p95", .ofBinary64 t.p95),
    ("min", .ofBinary64 t.min),
    ("max", .ofBinary64 t.max)]

def ofJson? (j : Json) : Option Timing :=
  match j.slots? ["avg", "p50", "p95", "min", "max"] false with
  | some [avg, p50, p95, min, max] => do
    return {
      avg := ← Json.required Json.binary64? avg
      p50 := ← Json.required Json.binary64? p50
      p95 := ← Json.required Json.binary64? p95
      min := ← Json.required Json.binary64? min
      max := ← Json.required Json.binary64? max }
  | _ => none

end Timing

namespace Soak

namespace Iteration

def toJson (i : Iteration) : Json :=
  .object [
    ("index", .ofNat i.index.toNat),
    ("exit_code", .ofOption (fun c : Int32 => .integer c.toInt) i.exitCode),
    ("duration_secs", .ofOption .ofBinary64 i.seconds),
    ("outcome", i.outcome.toJson)]

def ofJson? (j : Json) : Option Iteration :=
  match j.slots? ["index", "exit_code", "duration_secs", "outcome"] false with
  | some [index, exitCode, seconds, outcome] => do
    return {
      index := ← Json.required Json.uint32? index
      exitCode := ← Json.optional Json.int32? exitCode
      seconds := ← Json.optional Json.binary64? seconds
      outcome := ← Json.required Outcome.ofJson? outcome }
  | _ => none

end Iteration

namespace Summary

def toJson (s : Summary) : Json :=
  .object [
    ("command", .string s.command),
    ("iterations", .ofNat s.iterations.toNat),
    ("successes", .ofNat s.successes.toNat),
    ("rate_limits", .ofNat s.rateLimits.toNat),
    ("retriable_seen", .ofNat s.retriableSeen.toNat),
    ("crashes", .ofNat s.crashes.toNat),
    ("samples", .ofNat s.samples.toNat),
    ("timing", s.timing.toJson)]

def ofJson? (j : Json) : Option Summary :=
  match j.slots? ["command", "iterations", "successes", "rate_limits", "retriable_seen", "crashes",
    "samples", "timing"] false with
  | some [command, iterations, successes, rateLimits, retriableSeen, crashes, samples, timing] => do
    return {
      command := ← Json.required Json.string? command
      iterations := ← Json.required Json.uint32? iterations
      successes := ← Json.required Json.uint32? successes
      rateLimits := ← Json.required Json.uint32? rateLimits
      retriableSeen := ← Json.required Json.uint32? retriableSeen
      crashes := ← Json.required Json.uint32? crashes
      samples := ← Json.required Json.uint64? samples
      timing := ← Json.required Timing.ofJson? timing }
  | _ => none

end Summary

end Soak

end SoakRig
