import SoakRig.Policy
import SoakRig.Log.Record

/-!
# Fault injection

Attempt counters for the endpoints with a failure cycle, and the serving of one call: count the
attempt, answer it by the policy of the endpoint, and start over if the answer says so.
-/

namespace SoakRig

/-- The attempts made since the last restart, for each endpoint with a cycle. -/
structure Counters where
  time : UInt32
  ticker : UInt32
  placeOrder : UInt32
deriving DecidableEq

namespace Counters

def zero : Counters := ⟨0, 0, 0⟩

/-- The counter of an endpoint, if it has one. -/
def count? (c : Counters) : Endpoint → Option UInt32
  | .time => some c.time
  | .ticker => some c.ticker
  | .placeOrder => some c.placeOrder
  | .exchangeInfo => none
  | .account => none

/-- The counter of an endpoint; zero for an endpoint without one. -/
def count (c : Counters) (e : Endpoint) : UInt32 := (c.count? e).getD 0

/-- The counters with that of one endpoint set. -/
def set (c : Counters) (e : Endpoint) (n : UInt32) : Counters :=
  match e with
  | .time => { c with time := n }
  | .ticker => { c with ticker := n }
  | .placeOrder => { c with placeOrder := n }
  | .exchangeInfo => c
  | .account => c

/-- Every counter under the name of its endpoint. -/
def snapshot (c : Counters) : List (String × UInt32) :=
  (Endpoint.all.filter Endpoint.scripted).map fun e => (e.name, c.count e)

/-- The number of the next attempt; the last number that fits is never left. -/
def next (n : UInt32) : UInt32 := if n = 0xFFFFFFFF then n else n + 1

end Counters

/-- One served call. -/
structure Served where
  /-- The attempt that was answered; none if the endpoint does not count. -/
  attempt : Option UInt32
  response : Response

namespace Injector

/-- The place that reports served calls. -/
def target : String := "faultline_common::injector"

/-- Serves one call. -/
def handle (c : Counters) (e : Endpoint) (r : Request) : Served × Counters :=
  match c.count? e with
  | none => (⟨none, Policy.evaluate e 1 r⟩, c)
  | some n =>
    let attempt := Counters.next n
    let response := Policy.evaluate e attempt r
    (⟨some attempt, response⟩, c.set e (if response.resets then 0 else attempt))

/-- What is reported about a served call. -/
def record (e : Endpoint) (s : Served) : Log.Record :=
  match s.attempt with
  | none => ⟨.debug, target, some "serving stateless endpoint", [("endpoint", .shown e.name)]⟩
  | some attempt =>
    let fields : List (String × Log.Value) := [
      ("endpoint", .shown e.name),
      ("attempt", .integer attempt.toNat),
      ("status", .integer s.response.status.toNat)]
    if s.response.success then ⟨.info, target, some "scripted attempt succeeded", fields⟩
    else ⟨.warn, target, some "scripted attempt failed", fields⟩

end Injector

end SoakRig
