import SoakRig.Binary64.Basic

/-!
# Floating-point arithmetic

Sum, product, quotient and rounding up. Each result is the exact one rounded to the nearest number.
-/

namespace SoakRig.Binary64

/-- The finite number as a whole number of units, with its sign. -/
def signedUnits (x : Binary64) : Int := if x.negative then -(x.units : Int) else x.units

/-- The number nearest to a whole number of units; a zero takes the given sign. -/
def ofSignedUnits (zeroNegative : Bool) (u : Int) : Binary64 :=
  nearest (if u = 0 then zeroNegative else u < 0) u.natAbs 1

/-- The sum. A zero sum is negative only if both terms are. -/
def add (x y : Binary64) : Binary64 :=
  if x.isNaN || y.isNaN then nan
  else if x.isInfinite then
    if y.isInfinite && x.negative != y.negative then nan else x
  else if y.isInfinite then y
  else ofSignedUnits (x.negative && y.negative) (x.signedUnits + y.signedUnits)

/-- The product. -/
def mul (x y : Binary64) : Binary64 :=
  let negative := x.negative != y.negative
  if x.isNaN || y.isNaN then nan
  else if x.isInfinite || y.isInfinite then
    if x.isZero || y.isZero then nan else infinity negative
  else nearest negative (x.units * y.units) (twoTo unitExponent)

/-- The quotient. -/
def div (x y : Binary64) : Binary64 :=
  let negative := x.negative != y.negative
  if x.isNaN || y.isNaN then nan
  else if x.isInfinite then
    if y.isInfinite then nan else infinity negative
  else if y.isInfinite then ofParts negative 0
  else if y.isZero then
    if x.isZero then nan else infinity negative
  else nearest negative (x.units * twoTo unitExponent) y.units

/-- The sum of the numbers from left to right, starting from -0. -/
def sum (xs : List Binary64) : Binary64 := xs.foldl add negativeZero

/-- The largest number of elements that can be counted. -/
def maxCount : Nat := twoTo 64 - 1

/-- The number rounded up to a count: nothing below zero, and nothing for what is no number. -/
def ceilCount (x : Binary64) : Nat :=
  if x.isNaN || x.negative then 0
  else if x.isInfinite then maxCount
  else min ((x.units + (twoTo unitExponent - 1)) / twoTo unitExponent) maxCount

end SoakRig.Binary64
