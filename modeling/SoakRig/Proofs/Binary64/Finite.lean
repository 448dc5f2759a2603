import Mathlib.Algebra.Order.Group.Nat
import SoakRig.Binary64.Basic

/-!
# Finite numbers

A number is finite if its magnitude lies below that of infinity. Rounding keeps the number of units
to a power of two, so the number nearest to a quotient is finite as long as the quotient stays well
below the largest power of two that there is.
-/

namespace SoakRig

/-- A larger power is not smaller. -/
lemma twoTo_le {m n : Nat} (le : m ≤ n) : twoTo m ≤ twoTo n := Nat.pow_le_pow_right (by decide) le

namespace Binary64

variable {num den : Nat} {x : Binary64}

/-- Neither infinite nor no number at all. -/
def IsFinite (x : Binary64) : Prop := x.magnitude < infiniteMagnitude

instance (x : Binary64) : Decidable x.IsFinite :=
  inferInstanceAs (Decidable (x.magnitude < infiniteMagnitude))

lemma isFinite_iff : x.IsFinite ↔ (x.isNaN || x.isInfinite) = false := by
  rw [IsFinite, isNaN, isInfinite, Bool.or_eq_false_iff, decide_eq_false_iff_not,
    beq_eq_false_iff_ne]
  omega

lemma toNat_ofParts (negative : Bool) {magnitude : Nat} (fits : magnitude < twoTo 63) :
    (ofParts negative magnitude).bits.toNat = (if negative then twoTo 63 else 0) + magnitude := by
  have half : twoTo 63 = 9223372036854775808 := by decide
  apply UInt64.toNat_ofNat_of_lt'
  rw [half] at fits ⊢
  unfold UInt64.size
  split <;> omega

/-- The magnitude of a number is the one it was made from. -/
lemma magnitude_ofParts (negative : Bool) {magnitude : Nat} (fits : magnitude < twoTo 63) :
    (ofParts negative magnitude).magnitude = magnitude := by
  rw [Binary64.magnitude, toNat_ofParts negative fits]
  split
  · rw [Nat.add_mod_left, Nat.mod_eq_of_lt fits]
  · rw [Nat.zero_add, Nat.mod_eq_of_lt fits]

lemma roundQuotient_le (num den : Nat) : roundQuotient num den ≤ num / den + 1 := by
  have parity := Nat.mod_lt (num / den) (show 0 < 2 by decide)
  unfold roundQuotient
  dsimp only
  split
  · omega
  · split <;> omega

/-- What is rounded in the end has at most 53 bits, or is the next power of two. -/
lemma roundQuotient_spare_le (num den : Nat) :
    roundQuotient num (den * twoTo ((num / den).log2 - 52)) ≤ twoTo 53 := by
  refine Nat.le_trans (roundQuotient_le _ _) ?_
  rw [← Nat.div_div_eq_div_mul]
  refine Nat.div_lt_of_lt_mul ?_
  rw [← twoTo_add]
  calc num / den < twoTo ((num / den).log2 + 1) := Nat.lt_log2_self
    _ ≤ twoTo ((num / den).log2 - 52 + 53) := twoTo_le (by omega)

/-- A quotient of so many bits is no reason for infinity. -/
lemma nearestMagnitude_lt {bits : Nat} (few : bits ≤ 2097) (below : num / den < twoTo bits) :
    nearestMagnitude num den < infiniteMagnitude := by
  have spare : (num / den).log2 - 52 ≤ 2044 := by
    by_cases zero : num / den = 0
    · rw [zero]
      decide
    · have log := (Nat.log2_lt zero).2 below
      omega
  have rounded := roundQuotient_spare_le num den
  have two : twoTo 53 = 2 * twoTo 52 := by decide
  refine Nat.lt_of_le_of_lt (Nat.min_le_left _ _) ?_
  calc ((num / den).log2 - 52) * twoTo 52 + roundQuotient num (den * twoTo ((num / den).log2 - 52))
      ≤ 2044 * twoTo 52 + 2 * twoTo 52 :=
        Nat.add_le_add (Nat.mul_le_mul_right _ spare) (two ▸ rounded)
    _ = 2046 * twoTo 52 := by rw [← Nat.add_mul]
    _ < infiniteMagnitude := Nat.mul_lt_mul_of_pos_right (by decide) (twoTo_pos 52)

/-- The number nearest to such a quotient is finite. -/
lemma isFinite_nearest (negative : Bool) {bits : Nat} (few : bits ≤ 2097)
    (below : num / den < twoTo bits) : (nearest negative num den).IsFinite := by
  have small := nearestMagnitude_lt few below
  have fits : infiniteMagnitude < twoTo 63 := by decide
  rw [IsFinite, nearest, magnitude_ofParts negative (Nat.lt_trans small fits)]
  exact small

end Binary64

end SoakRig
