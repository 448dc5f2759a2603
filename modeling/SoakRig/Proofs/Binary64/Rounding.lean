import SoakRig.Proofs.Binary64.Order

/-!
# Rounding

A quotient of units is rounded to a multiple of the power of two that its size leaves room for. The
result is off by half of that power at most, never passes a number that could be kept, and is exact
where the quotient itself could be kept. So counts up to 2 to the power 53 are exact, and products
with them are rounded once.
-/

namespace SoakRig

lemma twoTo_dvd {m n : Nat} (le : m ≤ n) : twoTo m ∣ twoTo n := Nat.pow_dvd_pow 2 le

namespace Binary64

section Quotients

variable {num den k : Nat}

/-- A rounded quotient is off by half a unit at most. -/
lemma roundQuotient_near (num : Nat) (pos : 0 < den) :
    2 * (roundQuotient num den * den) ≤ 2 * num + den ∧
      2 * num ≤ 2 * (roundQuotient num den * den) + den := by
  have parts := Nat.div_add_mod' num den
  have rest := Nat.mod_lt num pos
  have next : (num / den + 1) * den = num / den * den + den := Nat.succ_mul _ _
  simp only [roundQuotient]
  split
  · omega
  split
  · rw [next]
    omega
  -- in the middle both neighbours will do
  · rcases Nat.mod_two_eq_zero_or_one (num / den) with even | odd
    · rw [even, Nat.add_zero]
      omega
    · rw [odd, next]
      omega

/-- Rounding does not fall below the quotient without its rest. -/
lemma div_le_roundQuotient (num den : Nat) : num / den ≤ roundQuotient num den := by
  simp only [roundQuotient]
  split
  · exact Nat.le_refl _
  split
  · exact Nat.le_add_right _ _
  · exact Nat.le_add_right _ _

/-- Rounding does not pass a whole number. -/
lemma roundQuotient_le_of_le (pos : 0 < den) (le : num ≤ k * den) : roundQuotient num den ≤ k := by
  have near := (roundQuotient_near num pos).1
  by_contra above
  have step : (k + 1) * den ≤ roundQuotient num den * den :=
    Nat.mul_le_mul_right den (Nat.lt_of_not_le above)
  rw [Nat.succ_mul] at step
  omega

/-- A whole number less than half a unit away is the rounded quotient. -/
lemma roundQuotient_eq_of_near (pos : 0 < den) (above : 2 * (k * den) < 2 * num + den)
    (below : 2 * num < 2 * (k * den) + den) : roundQuotient num den = k := by
  obtain ⟨not_above, not_below⟩ := roundQuotient_near num pos
  apply Nat.le_antisymm
  · by_contra larger
    have step : (k + 1) * den ≤ roundQuotient num den * den :=
      Nat.mul_le_mul_right den (Nat.lt_of_not_le larger)
    rw [Nat.succ_mul] at step
    omega
  · by_contra smaller
    have step : (roundQuotient num den + 1) * den ≤ k * den :=
      Nat.mul_le_mul_right den (Nat.lt_of_not_le smaller)
    rw [Nat.succ_mul] at step
    omega

/-- A whole number needs no rounding. -/
lemma roundQuotient_mul (k : Nat) (pos : 0 < den) : roundQuotient (k * den) den = k := by
  apply roundQuotient_eq_of_near pos
  · exact Nat.lt_add_of_pos_right pos
  · exact Nat.lt_add_of_pos_right pos

/-- A fraction may be reduced before it is rounded. -/
lemma roundQuotient_mul_right (num den : Nat) {c : Nat} (pos : 0 < c) :
    roundQuotient (num * c) (den * c) = roundQuotient num den := by
  have twice : 2 * (num % den * c) = 2 * (num % den) * c := (Nat.mul_assoc _ _ _).symm
  simp only [roundQuotient, Nat.mul_div_mul_right _ _ pos, Nat.mul_mod_mul_right, twice,
    Nat.mul_lt_mul_right pos]

end Quotients

section Nearest

variable {num den k bits : Nat} (negative : Bool)

/-- How many bits of a quotient have no room in a significand. -/
def spare (num den : Nat) : Nat := (num / den).log2 - 52

lemma spare_lt (below : num / den < twoTo bits) (some : 52 < bits) : spare num den + 52 < bits := by
  by_cases zero : num / den = 0
  · rw [spare, zero]
    exact some
  · have log := (Nat.log2_lt zero).2 below
    rw [spare]
    omega

/-- What is rounded fills a significand, if there are spare bits. -/
lemma twoTo_le_roundQuotient (num den : Nat) :
    spare num den = 0 ∨ twoTo 52 ≤ roundQuotient num (den * twoTo (spare num den)) := by
  by_cases none : spare num den = 0
  · exact .inl none
  right
  have large : (num / den).log2 = 52 + spare num den := by
    rw [spare] at none ⊢
    omega
  have some : num / den ≠ 0 := fun zero => by
    rw [zero] at large
    exact absurd large (by rw [Nat.log2_zero]; omega)
  refine Nat.le_trans ?_ (div_le_roundQuotient num _)
  rw [← Nat.div_div_eq_div_mul, Nat.le_div_iff_mul_le (twoTo_pos _), ← twoTo_add, ← large]
  exact Nat.log2_self_le some

/-- A finite result is the rounded significand behind its exponent. -/
lemma nearestMagnitude_eq (finite : nearestMagnitude num den < infiniteMagnitude) :
    nearestMagnitude num den =
      spare num den * twoTo 52 + roundQuotient num (den * twoTo (spare num den)) := by
  have least : nearestMagnitude num den =
    min (spare num den * twoTo 52 + roundQuotient num (den * twoTo (spare num den)))
      infiniteMagnitude := rfl
  rw [least] at finite ⊢
  exact Nat.min_eq_left (by omega)

/-- A finite result stands for the rounded multiple of a power of two. -/
lemma units_nearest (finite : nearestMagnitude num den < infiniteMagnitude) :
    (nearest negative num den).units =
      roundQuotient num (den * twoTo (spare num den)) * twoTo (spare num den) := by
  have fits : infiniteMagnitude < twoTo 63 := by decide
  apply units_of_scaled _ (twoTo_le_roundQuotient num den) (roundQuotient_spare_le num den)
  rw [nearest, magnitude_ofParts negative (Nat.lt_trans finite fits)]
  exact nearestMagnitude_eq finite

/-- A finite result is off by half of the last place at most. -/
lemma units_nearest_near (pos : 0 < den) (finite : nearestMagnitude num den < infiniteMagnitude) :
    2 * ((nearest negative num den).units * den) ≤ 2 * num + den * twoTo (spare num den) ∧
      2 * num ≤
        2 * ((nearest negative num den).units * den) + den * twoTo (spare num den) := by
  rw [units_nearest negative finite, Nat.mul_assoc, Nat.mul_comm (twoTo _) den]
  exact roundQuotient_near num (Nat.mul_pos pos (twoTo_pos _))

/-- Rounding does not pass a number that has the last place. -/
lemma units_nearest_le (pos : 0 < den) (finite : nearestMagnitude num den < infiniteMagnitude)
    (place : twoTo (spare num den) ∣ k) (le : num ≤ k * den) :
    (nearest negative num den).units ≤ k := by
  obtain ⟨c, rfl⟩ := place
  rw [units_nearest negative finite, Nat.mul_comm (twoTo _) c]
  apply Nat.mul_le_mul_right
  apply roundQuotient_le_of_le (Nat.mul_pos pos (twoTo_pos _))
  rwa [Nat.mul_comm den, ← Nat.mul_assoc, Nat.mul_comm c]

/-- A multiple of the last place is kept. -/
lemma units_nearest_of_dvd (finite : nearestMagnitude k 1 < infiniteMagnitude)
    (place : twoTo (spare k 1) ∣ k) : (nearest negative k 1).units = k := by
  rw [units_nearest negative finite, Nat.one_mul]
  generalize spare k 1 = s at place
  obtain ⟨c, rfl⟩ := place
  rw [Nat.mul_comm (twoTo s) c, roundQuotient_mul c (twoTo_pos s)]

section Scaled

variable {q places : Nat}

lemma scaled_lt (lt : q < twoTo bits) (places : Nat) :
    q * twoTo places / 1 < twoTo (bits + places) := by
  rw [Nat.div_one, twoTo_add]
  exact Nat.mul_lt_mul_of_pos_right lt (twoTo_pos places)

lemma lt_of_le_twoTo (few : q ≤ twoTo 53) : q < twoTo 54 := Nat.lt_of_le_of_lt few (by decide)

lemma isFinite_nearest_scaled (few : q ≤ twoTo 53) (finite : places ≤ 2043) :
    (nearest negative (q * twoTo places) 1).IsFinite :=
  isFinite_nearest negative (by omega) (scaled_lt (lt_of_le_twoTo few) places)

/-- A significand of up to 53 bits, moved to the left, is kept. -/
lemma units_nearest_scaled (few : q ≤ twoTo 53) (finite : places ≤ 2043) :
    (nearest negative (q * twoTo places) 1).units = q * twoTo places := by
  have below := scaled_lt (lt_of_le_twoTo few) places
  apply units_nearest_of_dvd negative (nearestMagnitude_lt (by omega) below)
  rcases Nat.lt_or_eq_of_le few with less | rfl
  · have room := spare_lt (scaled_lt less places) (by omega)
    exact Nat.dvd_trans (twoTo_dvd (by omega)) (Nat.dvd_mul_left _ _)
  -- the next power of two has one spare bit more
  · have room := spare_lt below (by omega)
    rw [← twoTo_add] at room ⊢
    exact twoTo_dvd (by omega)

end Scaled

/-- Nothing has no magnitude. -/
lemma nearestMagnitude_zero (pos : 0 < den) : nearestMagnitude 0 den = 0 := by
  have none : spare 0 den = 0 := by
    rw [spare, Nat.zero_div]
    rfl
  have rounded := roundQuotient_mul 0 (Nat.mul_pos pos (twoTo_pos (spare 0 den)))
  rw [Nat.zero_mul] at rounded
  refine Nat.le_zero.1 (Nat.le_trans (Nat.min_le_left _ _) ?_)
  show spare 0 den * twoTo 52 + roundQuotient 0 (den * twoTo (spare 0 den)) ≤ 0
  rw [rounded, none, Nat.zero_mul]

/-- A fraction may be reduced before the nearest number is taken. -/
lemma nearest_mul_right (num den : Nat) {c : Nat} (pos : 0 < c) :
    nearest negative (num * c) (den * c) = nearest negative num den := by
  have swap (n : Nat) : den * c * n = den * n * c := Nat.mul_right_comm den c n
  simp only [nearest, nearestMagnitude, Nat.mul_div_mul_right _ _ pos, swap,
    roundQuotient_mul_right _ _ pos]

/-- The sign of a number is the one it was made from. -/
lemma negative_ofParts {magnitude : Nat} (fits : magnitude < twoTo 63) :
    (ofParts negative magnitude).negative = negative := by
  rw [Binary64.negative, toNat_ofParts negative fits]
  cases negative
  · apply decide_eq_false
    rw [if_neg Bool.false_ne_true, Nat.zero_add]
    exact Nat.not_le.2 fits
  · exact decide_eq_true (Nat.le_add_right _ _)

lemma negative_nearest (num den : Nat) : (nearest negative num den).negative = negative := by
  have fits : infiniteMagnitude < twoTo 63 := by decide
  exact negative_ofParts negative (Nat.lt_of_le_of_lt (Nat.min_le_right _ _) fits)

end Nearest

section Counts

variable {n k : Nat} {x : Binary64}

lemma isNaN_of_isFinite (finite : x.IsFinite) : x.isNaN = false :=
  (Bool.or_eq_false_iff.1 (isFinite_iff.1 finite)).1

lemma isInfinite_of_isFinite (finite : x.IsFinite) : x.isInfinite = false :=
  (Bool.or_eq_false_iff.1 (isFinite_iff.1 finite)).2

lemma isFinite_ofNat (few : n ≤ twoTo 53) : (ofNat n).IsFinite :=
  isFinite_nearest_scaled false few (by decide)

/-- Up to 2 to the power 53 a count is a number of its own. -/
lemma units_ofNat (few : n ≤ twoTo 53) : (ofNat n).units = n * twoTo unitExponent :=
  units_nearest_scaled false few (by decide)

/-- A product with such a count is rounded once. -/
lemma mul_ofNat (finite : x.IsFinite) (few : n ≤ twoTo 53) :
    x.mul (ofNat n) = nearest x.negative (x.units * n) 1 := by
  have count := isFinite_ofNat few
  have sign : (x.negative != (ofNat n).negative) = x.negative := by
    rw [ofNat, negative_nearest, Bool.bne_false]
  have product : x.units * (ofNat n).units = x.units * n * twoTo unitExponent := by
    rw [units_ofNat few, Nat.mul_assoc]
  simp only [mul, isNaN_of_isFinite finite, isNaN_of_isFinite count,
    isInfinite_of_isFinite finite, isInfinite_of_isFinite count, Bool.or_self, Bool.false_eq_true,
    if_false, sign, product]
  rw [← nearest_mul_right x.negative (x.units * n) 1 (twoTo_pos unitExponent), Nat.one_mul]

/-- A number is rounded up to the count that it does not pass and comes closer to than one. -/
lemma ceilCount_eq (finite : x.IsFinite) (sign : x.negative = false) (fits : k ≤ maxCount)
    (upper : x.units ≤ k * twoTo unitExponent)
    (lower : k * twoTo unitExponent < x.units + twoTo unitExponent) : x.ceilCount = k := by
  have pos := twoTo_pos unitExponent
  have quotient : (x.units + (twoTo unitExponent - 1)) / twoTo unitExponent = k := by
    apply Nat.div_eq_of_lt_le
    · omega
    · rw [Nat.succ_mul]
      omega
  simp only [ceilCount, isNaN_of_isFinite finite, isInfinite_of_isFinite finite, sign, quotient,
    Bool.or_self, Bool.false_eq_true, if_false]
  exact Nat.min_eq_left fits

/-- A count is rounded up to itself. -/
lemma ceilCount_ofNat (few : n ≤ twoTo 53) : (ofNat n).ceilCount = n := by
  have fits : twoTo 53 ≤ maxCount := by decide
  apply ceilCount_eq (isFinite_ofNat few) (negative_nearest false _ _) (Nat.le_trans few fits)
  · rw [units_ofNat few]
  · rw [units_ofNat few]
    exact Nat.lt_add_of_pos_right (twoTo_pos unitExponent)

/-- Zero times anything is no count above zero. -/
lemma ceilCount_zero_mul (x : Binary64) : (zero.mul x).ceilCount = 0 := by
  have no_number : nan.ceilCount = 0 := by decide +kernel
  have zero_number : zero.isNaN = false ∧ zero.isInfinite = false ∧ zero.isZero = true := by decide
  have zero_units : zero.units = 0 := rfl
  obtain ⟨number, finite, is_zero⟩ := zero_number
  simp only [mul, number, finite, is_zero, zero_units, Bool.false_or, Bool.true_or, if_true,
    Nat.zero_mul]
  split
  · exact no_number
  split
  · exact no_number
  · rw [nearest, nearestMagnitude_zero (twoTo_pos unitExponent)]
    cases zero.negative != x.negative
    · decide +kernel
    · decide +kernel

end Counts

end Binary64

end SoakRig
