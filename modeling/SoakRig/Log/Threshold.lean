import SoakRig.Decimal.Digits
import SoakRig.Log.Record

/-!
# Log thresholds

From which level on records matter. A threshold is given by the name of a level in any case or by
its number.
-/

namespace SoakRig.Log

/-- The least that matters enough; none lets nothing through. -/
abbrev Threshold := Option Level

namespace Threshold

/-- The levels by their numbers. -/
def ofNumber? : Nat → Option Threshold
  | 0 => some none
  | 1 => some (some .error)
  | 2 => some (some .warn)
  | 3 => some (some .info)
  | 4 => some (some .debug)
  | 5 => some (some .trace)
  | _ => none

/-- The levels by their names in any case. -/
def ofName? (name : String) : Option Threshold :=
  match String.ofList (name.toList.map Char.toLower) with
  | "off" => some none
  | "error" => some (some .error)
  | "warn" => some (some .warn)
  | "info" => some (some .info)
  | "debug" => some (some .debug)
  | "trace" => some (some .trace)
  | _ => none

/-- The threshold that a text stands for. -/
def ofText? (text : String) : Option Threshold :=
  let digits := match text.toList with
    | '+' :: digits => digits
    | digits => digits
  match Decimal.natural? digits with
  | some n => ofNumber? n
  | none => ofName? text

/-- The level is let through. -/
def lets (t : Threshold) (l : Level) : Bool :=
  match t with
  | none => false
  | some least => l.detail ≤ least.detail

end Threshold

end SoakRig.Log
