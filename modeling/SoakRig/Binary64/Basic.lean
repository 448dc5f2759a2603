import SoakRig.Powers

/-!
# Binary floating point in 64 bits

A number is its bit pattern. The magnitude (all bits but the sign) orders the non-negative numbers,
and every finite number is a whole number of units of 2 to the power -1074, so rounding is one
division of natural numbers.
-/

namespace SoakRig

/-- A floating-point number, given by its bits. -/
structure Binary64 where
  bits : UInt64
deriving DecidableEq, Inhabited

namespace Binary64

/-- The magnitude of infinity; larger magnitudes are no numbers. -/
def infiniteMagnitude : Nat := 2047 * twoTo 52

/-- The sign bit is set. -/
def negative (x : Binary64) : Bool := twoTo 63 ≤ x.bits.toNat

/-- All bits but the sign. -/
def magnitude (x : Binary64) : Nat := x.bits.toNat % twoTo 63

/-- The number with a sign and a magnitude. -/
def ofParts (negative : Bool) (magnitude : Nat) : Binary64 :=
  ⟨UInt64.ofNat ((if negative then twoTo 63 else 0) + magnitude)⟩

def isNaN (x : Binary64) : Bool := infiniteMagnitude < x.magnitude

def isInfinite (x : Binary64) : Bool := x.magnitude == infiniteMagnitude

def isZero (x : Binary64) : Bool := x.magnitude == 0

def zero : Binary64 := ⟨0⟩

def negativeZero : Binary64 := ofParts true 0

/-- The quiet value that stands for no number. -/
def nan : Binary64 := ofParts false (infiniteMagnitude + twoTo 51)

def infinity (negative : Bool) : Binary64 := ofParts negative infiniteMagnitude

/-- The unit is 2 to this power below one. -/
def unitExponent : Nat := 1074

/-- The units in a finite number, leaving its sign aside. -/
def units (x : Binary64) : Nat :=
  let m := x.magnitude
  if m < twoTo 52 then m else (twoTo 52 + m % twoTo 52) * twoTo (m / twoTo 52 - 1)

/-- The place of a number in the order that puts -0 before 0 and sorts what is no number outside. -/
def rank (x : Binary64) : Int :=
  if x.negative then -1 - (x.magnitude : Int) else x.magnitude

/-- The whole number nearest to a quotient; a half goes to the even neighbour. -/
def roundQuotient (num den : Nat) : Nat :=
  let q := num / den
  let r := num % den
  if 2 * r < den then q
  else if den < 2 * r then q + 1
  else q + q % 2

/-- The magnitude nearest to `num / den` units; a half goes to the even neighbour. -/
def nearestMagnitude (num den : Nat) : Nat :=
  let spare := (num / den).log2 - 52
  min (spare * twoTo 52 + roundQuotient num (den * twoTo spare)) infiniteMagnitude

/-- The number nearest to `num / den` units, with a sign. -/
def nearest (negative : Bool) (num den : Nat) : Binary64 :=
  ofParts negative (nearestMagnitude num den)

/-- The number nearest to a natural number. -/
def ofNat (n : Nat) : Binary64 := nearest false (n * twoTo unitExponent) 1

end Binary64

end SoakRig
