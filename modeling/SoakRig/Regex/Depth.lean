/-!
# Depth of regular expressions

How deep the parts of an expression lie in each other. Parts side by side count as one level more,
as soon as there are two of them.
-/

namespace SoakRig.Regex

/-- Parts side by side: how many there are, and the depth of the deepest. -/
structure Bundle where
  count : Nat
  depth : Nat
deriving DecidableEq

namespace Bundle

def empty : Bundle := ⟨0, 0⟩

/-- One part more, of some depth. -/
def add (b : Bundle) (depth : Nat) : Bundle := ⟨b.count + 1, max b.depth depth⟩

/-- A part that was there becomes deeper. -/
def deepen (b : Bundle) (depth : Nat) : Bundle := ⟨b.count, max b.depth depth⟩

/-- The depth of the parts together. -/
def whole (b : Bundle) : Nat := if b.count ≤ 1 then b.depth else b.depth + 1

end Bundle

end SoakRig.Regex
