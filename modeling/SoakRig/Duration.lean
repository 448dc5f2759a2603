import SoakRig.Binary64.Arithmetic

/-!
# Lengths of time

A length of time is a whole number of nanoseconds. As a floating-point number of seconds it is the
sum of the whole seconds and the rest; from one it is the exact value rounded to nanoseconds.
-/

namespace SoakRig

/-- A length of time. -/
structure Duration where
  nanoseconds : Nat
deriving DecidableEq, Inhabited

namespace Duration

/-- The nanoseconds in a second. -/
def perSecond : Nat := tenTo 9

def zero : Duration := ⟨0⟩

def ofWholeSeconds (n : Nat) : Duration := ⟨n * perSecond⟩

def ofMilliseconds (n : Nat) : Duration := ⟨n * tenTo 6⟩

/-- The whole seconds. -/
def wholeSeconds (d : Duration) : Nat := d.nanoseconds / perSecond

/-- The nanoseconds beyond the whole seconds. -/
def subsecond (d : Duration) : Nat := d.nanoseconds % perSecond

/-- The whole milliseconds. -/
def milliseconds (d : Duration) : Nat := d.nanoseconds / tenTo 6

/-- The whole milliseconds that it takes to cover the length of time. -/
def coveringMilliseconds (d : Duration) : Nat := (d.nanoseconds + (tenTo 6 - 1)) / tenTo 6

/-- The length of time in seconds. -/
def seconds (d : Duration) : Binary64 :=
  (Binary64.ofNat d.wholeSeconds).add
    ((Binary64.ofNat d.subsecond).div (Binary64.ofNat perSecond))

/-- Lengths of time end before this many seconds. -/
def secondsLimit : Nat := twoTo 64

/-- The length of time nearest to a number of seconds, if that is a number from zero to the limit. -/
def ofSeconds? (x : Binary64) : Option Duration :=
  if x.isNaN || x.isInfinite || (x.negative && !x.isZero) then none
  else if secondsLimit * twoTo Binary64.unitExponent ≤ x.units then none
  else some ⟨Binary64.roundQuotient (x.units * perSecond) (twoTo Binary64.unitExponent)⟩

end Duration

end SoakRig
