/-!
# Sets of characters given by ranges

Character classes are tables of closed ranges of code points.
-/

namespace SoakRig.Text

/-- A closed range of code points. -/
abbrev Range := Nat × Nat

/-- The character lies in one of the ranges. -/
def inRanges (ranges : List Range) (c : Char) : Bool :=
  ranges.any fun r => r.1 ≤ c.toNat && c.toNat ≤ r.2

end SoakRig.Text
