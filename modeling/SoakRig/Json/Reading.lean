import SoakRig.Json

/-!
# Reading JSON values

How numbers, texts, names and records are read from JSON values. A record is an object with its
fields in any order, other fields not being looked at, or an array of its fields in order.
-/

namespace SoakRig.Json

/-- Reads a truth value. -/
def bool? : Json → Option Bool
  | .bool b => some b
  | _ => none

/-- Reads a text. -/
def string? : Json → Option String
  | .string s => some s
  | _ => none

/-- Reads a whole number from `low` to `high`. -/
def between? (low high : Int) : Json → Option Int
  | .integer n => if low ≤ n ∧ n ≤ high then some n else none
  | _ => none

def uint32? (j : Json) : Option UInt32 :=
  (j.between? 0 (twoTo 32 - 1)).map fun n => UInt32.ofNat n.toNat

def uint64? (j : Json) : Option UInt64 :=
  (j.between? 0 (twoTo 64 - 1)).map fun n => UInt64.ofNat n.toNat

def int32? (j : Json) : Option Int32 := (j.between? (-twoTo 31) (twoTo 31 - 1)).map Int32.ofInt

/-- Reads a number; a whole number stands for the nearest one. -/
def binary64? : Json → Option Binary64
  | .number x => some x
  | .integer n => some (.nearest (n < 0) (n.natAbs * twoTo Binary64.unitExponent) 1)
  | _ => none

/-- Reads null as nothing, and something by the given reader. -/
def nullable? {α : Type} (read : Json → Option α) : Json → Option (Option α)
  | .null => some none
  | j => (read j).map some

/-- Reads every item of an array. -/
def items? {α : Type} (read : Json → Option α) : List Json → Option (List α)
  | [] => some []
  | j :: js =>
    match read j, items? read js with
    | some x, some xs => some (x :: xs)
    | _, _ => none

/-- Reads an array. -/
def list? {α : Type} (read : Json → Option α) : Json → Option (List α)
  | .array items => items? read items
  | _ => none

/-- Reads the name of one of some values: the name itself, or an object that holds null under it. -/
def named? {α : Type} (all : List α) (name : α → String) : Json → Option α
  | .string s => all.find? (name · = s)
  | .object [(s, .null)] => all.find? (name · = s)
  | _ => none

/-- The fields of a record, as far as they are there. In an array the last one may be left out if
the record can do without it. -/
def slots? (names : List String) (openEnded : Bool) : Json → Option (List (Option Json))
  | .object fields => some (names.map (field? · fields))
  | .array items =>
    if items.length = names.length then some (items.map some)
    else if openEnded ∧ items.length + 1 = names.length then some (items.map some ++ [none])
    else none
  | _ => none

/-- Reads a field that has to be there. -/
def required {α : Type} (read : Json → Option α) (slot : Option Json) : Option α := slot.bind read

/-- Reads a field that may be null or missing. -/
def optional {α : Type} (read : Json → Option α) : Option Json → Option (Option α)
  | none => some none
  | some j => nullable? read j

/-- A number as a value; what is no finite number is null. -/
def ofBinary64 (x : Binary64) : Json :=
  if x.isNaN || x.isInfinite then .null else .number x

/-- A natural number as a value. -/
def ofNat (n : Nat) : Json := .integer n

/-- Something by the given writer, or null. -/
def ofOption {α : Type} (write : α → Json) : Option α → Json
  | some x => write x
  | none => .null

end SoakRig.Json
