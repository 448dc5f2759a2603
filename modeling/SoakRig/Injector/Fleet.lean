import SoakRig.Injector

/-!
# Fleets of injectors

Several injectors, some of which share their counters. Every call is one step.
-/

namespace SoakRig

/-- The counters in use, and for every injector which of them it uses. -/
structure Fleet where
  counters : List Counters
  members : List Nat

namespace Fleet

/-- One injector with fresh counters. -/
def single : Fleet := ⟨[.zero], [0]⟩

/-- What can be done with a fleet. Injectors are numbered from zero in the order they joined. -/
inductive Step where
  | fresh
  | share (member : Nat)
  | count (member : Nat) (endpoint : Endpoint)
  | snapshot (member : Nat)
  | handle (member : Nat) (endpoint : Endpoint) (request : Request)

/-- What a step answers. -/
inductive Reply where
  | joined (member : Nat)
  | count (n : UInt32)
  | snapshot (counters : Counters)
  | served (endpoint : Endpoint) (served : Served) (after : Counters)

/-- The group of a member and the counters of that group. -/
def look? (f : Fleet) (member : Nat) : Option (Nat × Counters) :=
  match f.members[member]? with
  | none => none
  | some group => f.counters[group]?.map fun c => (group, c)

/-- The fleet with another injector. -/
def join (f : Fleet) (group : Nat) : Fleet := { f with members := f.members ++ [group] }

/-- Performs one step, if it names a member of the fleet. -/
def step (f : Fleet) : Step → Option (Reply × Fleet)
  | .fresh =>
    some (.joined f.members.length,
      { f with counters := f.counters ++ [Counters.zero] }.join f.counters.length)
  | .share member =>
    (f.look? member).map fun (group, _) => (.joined f.members.length, f.join group)
  | .count member e => (f.look? member).map fun (_, c) => (.count (c.count e), f)
  | .snapshot member => (f.look? member).map fun (_, c) => (.snapshot c, f)
  | .handle member e r =>
    (f.look? member).map fun (group, c) =>
      let (served, after) := Injector.handle c e r
      (.served e served after, { f with counters := f.counters.set group after })

/-- Performs the steps in order and collects the replies, if every step names a member. -/
def run (f : Fleet) : List Step → Option (List Reply × Fleet)
  | [] => some ([], f)
  | s :: steps =>
    match f.step s with
    | none => none
    | some (reply, f') => (f'.run steps).map fun (replies, last) => (reply :: replies, last)

/-- What is reported while the replies are made. -/
def records (replies : List Reply) : List Log.Record :=
  replies.filterMap fun
    | .served e served _ => some (Injector.record e served)
    | _ => none

end Fleet

end SoakRig
