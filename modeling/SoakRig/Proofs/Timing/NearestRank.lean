import Mathlib.Algebra.Order.Floor.Div
import Mathlib.GroupTheory.GroupAction.Ring
import Mathlib.Tactic.Ring
import SoakRig.Proofs.Timing.Percentile

/-!
# Exact nearest ranks

The number that stands for 0.95 is a little too small, and a product with it is rounded. Both errors
together stay below a twentieth for every number of samples that a soak can have, so they neither
lift a product above the whole number it should be nor drop it to the one below.
-/

namespace SoakRig.Timing

open Binary64 (unitExponent)

variable {samples : List Binary64} {n : Nat}

lemma le_twoTo_of_lt_size (few : n < UInt32.size) : n ≤ twoTo 53 :=
  Nat.le_of_lt (Nat.lt_of_lt_of_le few (by decide))

section Half

lemma units_half : half.units = twoTo 1073 := by decide +kernel

lemma half_mul_ofNat (few : n ≤ twoTo 53) :
    half.mul (.ofNat n) = .nearest false (n * twoTo 1073) 1 := by
  have finite : half.IsFinite := by decide
  have sign : half.negative = false := by decide
  rw [Binary64.mul_ofNat finite few, sign, units_half, Nat.mul_comm]

/-- Half of a count is exact, so it is rounded up as it should be. -/
lemma ceilCount_half_mul (few : n ≤ twoTo 53) :
    (half.mul (.ofNat n)).ceilCount = n ⌈/⌉ 2 := by
  have two : twoTo unitExponent = 2 * twoTo 1073 := by decide +kernel
  have pos := twoTo_pos 1073
  have fits : twoTo 53 ≤ Binary64.maxCount := by decide
  have upper : n ≤ n ⌈/⌉ 2 * 2 := by
    rw [Nat.ceilDiv_eq_add_pred_div]
    omega
  have lower : n ⌈/⌉ 2 * 2 ≤ n + 1 := by
    rw [Nat.ceilDiv_eq_add_pred_div]
    omega
  rw [half_mul_ofNat few]
  apply Binary64.ceilCount_eq (Binary64.isFinite_nearest_scaled _ few (by decide))
    (Binary64.negative_nearest _ _ _) (by omega)
  · rw [Binary64.units_nearest_scaled _ few (by decide), two, ← Nat.mul_assoc]
    exact Nat.mul_le_mul_right _ upper
  · rw [Binary64.units_nearest_scaled _ few (by decide), two, ← Nat.mul_assoc, ← Nat.add_mul]
    exact Nat.mul_lt_mul_of_pos_right (Nat.lt_succ_of_le lower) pos

end Half

section NineteenTwentieths

/-- The number that stands for 0.95 is short of it by two fifths of its last place. -/
lemma units_nineteenTwentieths :
    20 * nineteenTwentieths.units + 8 * twoTo 1021 = 19 * twoTo unitExponent := by
  decide +kernel

lemma nineteenTwentieths_mul_ofNat (few : n < UInt32.size) :
    nineteenTwentieths.mul (.ofNat n) = .nearest false (nineteenTwentieths.units * n) 1 := by
  have finite : nineteenTwentieths.IsFinite := by decide
  have sign : nineteenTwentieths.negative = false := by decide
  rw [Binary64.mul_ofNat finite (le_twoTo_of_lt_size few), sign]

lemma nineteenTwentieths_mul_lt (few : n < UInt32.size) :
    nineteenTwentieths.units * n / 1 < twoTo (unitExponent + 32) := by
  have below : nineteenTwentieths.units < twoTo unitExponent := by decide +kernel
  rw [Nat.div_one, twoTo_add]
  exact Nat.mul_lt_mul'' below few

/-- The exact product with the number is short of the exact nineteen twentieths. -/
lemma nineteenTwentieths_mul (n : Nat) :
    20 * (nineteenTwentieths.units * n) + 8 * (n * twoTo 1021) =
      19 * (n * twoTo unitExponent) := by
  have short := units_nineteenTwentieths
  generalize nineteenTwentieths.units = w at short ⊢
  generalize twoTo 1021 = c at short ⊢
  calc 20 * (w * n) + 8 * (n * c) = (20 * w + 8 * c) * n := by ring
    _ = 19 * (n * twoTo unitExponent) := by rw [short]; ring

/-- A product with the number does not pass the count. -/
lemma nineteenTwentieths_mul_le (n : Nat) :
    nineteenTwentieths.units * n ≤ 19 * n ⌈/⌉ 20 * twoTo unitExponent := by
  have product := nineteenTwentieths_mul n
  have le : 19 * n ≤ 20 * (19 * n ⌈/⌉ 20) := by
    rw [Nat.ceilDiv_eq_add_pred_div]
    omega
  -- closed numbers of this size are kept out of the arithmetic
  generalize nineteenTwentieths.units * n = num at product ⊢
  generalize twoTo unitExponent = u at product ⊢
  have scaled := Nat.mul_le_mul_right u le
  rw [Nat.mul_assoc, Nat.mul_assoc] at scaled
  generalize twoTo 1021 = c at product
  omega

/-- The count is less than one above the exact nineteen twentieths. -/
lemma ceilDiv_mul_le (n : Nat) :
    20 * (19 * n ⌈/⌉ 20 * twoTo unitExponent) ≤
      19 * (n * twoTo unitExponent) + 19 * twoTo unitExponent := by
  have le : 20 * (19 * n ⌈/⌉ 20) ≤ 19 * n + 19 := by
    rw [Nat.ceilDiv_eq_add_pred_div]
    omega
  generalize twoTo unitExponent = u
  calc 20 * (19 * n ⌈/⌉ 20 * u) = 20 * (19 * n ⌈/⌉ 20) * u := (Nat.mul_assoc _ _ _).symm
    _ ≤ (19 * n + 19) * u := Nat.mul_le_mul_right u le
    _ = 19 * (n * u) + 19 * u := by rw [Nat.add_mul, Nat.mul_assoc]

/-- What the number is short of and what a product loses by rounding are less than a twentieth. -/
lemma errors_lt (few : n < UInt32.size) :
    10 * twoTo (Binary64.spare (nineteenTwentieths.units * n) 1) + 8 * (n * twoTo 1021) <
      twoTo unitExponent := by
  have exponent : unitExponent = 1074 := rfl
  have room := Binary64.spare_lt (nineteenTwentieths_mul_lt few) (by decide)
  have place : twoTo (Binary64.spare (nineteenTwentieths.units * n) 1) ≤
      UInt32.size * twoTo 1021 := by
    rw [show UInt32.size = twoTo 32 from rfl, ← twoTo_add]
    exact twoTo_le (by omega)
  have short : n * twoTo 1021 ≤ UInt32.size * twoTo 1021 :=
    Nat.mul_le_mul_right _ (Nat.le_of_lt few)
  calc 10 * twoTo (Binary64.spare (nineteenTwentieths.units * n) 1) + 8 * (n * twoTo 1021)
      ≤ 10 * (UInt32.size * twoTo 1021) + 8 * (UInt32.size * twoTo 1021) :=
        Nat.add_le_add (Nat.mul_le_mul_left _ place) (Nat.mul_le_mul_left _ short)
    _ = 18 * UInt32.size * twoTo 1021 := by rw [← Nat.add_mul, Nat.mul_assoc]
    _ < twoTo 53 * twoTo 1021 := Nat.mul_lt_mul_of_pos_right (by decide) (twoTo_pos 1021)
    _ = twoTo unitExponent := (twoTo_add 53 1021).symm

/-- The two errors of a product with 0.95 never change the whole number it is rounded up to. -/
lemma ceilCount_nineteenTwentieths_mul (few : n < UInt32.size) :
    (nineteenTwentieths.mul (.ofNat n)).ceilCount = 19 * n ⌈/⌉ 20 := by
  have exponent : unitExponent = 1074 := rfl
  have word : UInt32.size = 4294967296 := rfl
  have below := nineteenTwentieths_mul_lt few
  have finite := Binary64.nearestMagnitude_lt (by decide) below
  have room := Binary64.spare_lt below (by decide)
  rw [nineteenTwentieths_mul_ofNat few]
  apply Binary64.ceilCount_eq (Binary64.isFinite_nearest _ (by decide) below)
    (Binary64.negative_nearest _ _ _)
  case fits =>
    have most : Binary64.maxCount = 18446744073709551615 := by decide
    rw [Nat.ceilDiv_eq_add_pred_div]
    omega
  case upper =>
    apply Binary64.units_nearest_le _ Nat.one_pos finite
    · exact Nat.dvd_trans (twoTo_dvd (by omega)) (Nat.dvd_mul_left _ _)
    · rw [Nat.mul_one]
      exact nineteenTwentieths_mul_le n
  case lower =>
    obtain ⟨-, near⟩ := Binary64.units_nearest_near false Nat.one_pos finite
    have product := nineteenTwentieths_mul n
    have count := ceilDiv_mul_le n
    have errors := errors_lt few
    rw [Nat.mul_one, Nat.one_mul] at near
    generalize twoTo 1021 = c at product errors
    generalize twoTo unitExponent = u at *
    omega

end NineteenTwentieths

section Ranks

lemma ceilDiv_ranks (pos : 0 < n) :
    1 ≤ n ⌈/⌉ 2 ∧ n ⌈/⌉ 2 ≤ 19 * n ⌈/⌉ 20 ∧ 19 * n ⌈/⌉ 20 ≤ n := by
  rw [Nat.ceilDiv_eq_add_pred_div, Nat.ceilDiv_eq_add_pred_div]
  omega

lemma rankOf_half (pos : 0 < n) (few : n < UInt32.size) : rankOf half n = n ⌈/⌉ 2 := by
  obtain ⟨first, middle, last⟩ := ceilDiv_ranks pos
  exact rankOf_eq (ceilCount_half_mul (le_twoTo_of_lt_size few)) first (Nat.le_trans middle last)

lemma rankOf_nineteenTwentieths (pos : 0 < n) (few : n < UInt32.size) :
    rankOf nineteenTwentieths n = 19 * n ⌈/⌉ 20 := by
  obtain ⟨first, middle, last⟩ := ceilDiv_ranks pos
  exact rankOf_eq (ceilCount_nineteenTwentieths_mul few) (Nat.le_trans first middle) last

/-- The least sample, the two percentiles and the greatest sample have ranks that do not fall. -/
lemma pairwise_rankOf (pos : 0 < n) (few : n < UInt32.size) :
    [.zero, half, nineteenTwentieths, one].Pairwise fun p q => rankOf p n ≤ rankOf q n := by
  obtain ⟨first, middle, last⟩ := ceilDiv_ranks pos
  have ascending : List.Pairwise (· ≤ ·) ([.zero, half, nineteenTwentieths, one].map
      fun p => rankOf p n) := by
    rw [List.map_cons, List.map_cons, List.map_cons, List.map_singleton, rankOf_zero,
      rankOf_half pos few, rankOf_nineteenTwentieths pos few,
      rankOf_one pos (le_twoTo_of_lt_size few), ← List.isChain_iff_pairwise]
    exact .cons_cons first (.cons_cons middle (.cons_cons last (.singleton _)))
  exact List.pairwise_map.1 ascending

/-- Percentiles of ranks that do not fall are in order. -/
lemma pairwise_percentile (some_samples : samples ≠ []) {ps : List Binary64}
    (ascending : ps.Pairwise fun p q => rankOf p samples.length ≤ rankOf q samples.length) :
    (ps.map (percentile samples)).Pairwise fun x y => ¬y.Before x := by
  rw [List.pairwise_map]
  exact ascending.imp (not_before_of_rankOf_le some_samples)

end Ranks

/--
For every number of samples that a soak can have, half and 0.95 of it are rounded up to the exact
nearest ranks, which therefore are the ranks of the two percentiles of a report. So the least
sample, the two percentiles and the greatest sample come in this order.
-/
theorem rankOf_nearest (pos : 0 < n) (few : n < UInt32.size) :
    (half.mul (.ofNat n)).ceilCount = n ⌈/⌉ 2 ∧
    (nineteenTwentieths.mul (.ofNat n)).ceilCount = 19 * n ⌈/⌉ 20 ∧
    rankOf half n = n ⌈/⌉ 2 ∧ rankOf nineteenTwentieths n = 19 * n ⌈/⌉ 20 ∧
    ∀ samples : List Binary64, samples.length = n →
      let t := ofSamples samples
      HasRank samples (n ⌈/⌉ 2) t.p50 ∧ HasRank samples (19 * n ⌈/⌉ 20) t.p95 ∧
      [t.min, t.p50, t.p95, t.max].Pairwise fun x y => ¬y.Before x := by
  have exact_n := le_twoTo_of_lt_size few
  refine ⟨ceilCount_half_mul exact_n, ceilCount_nineteenTwentieths_mul few, rankOf_half pos few,
    rankOf_nineteenTwentieths pos few, ?_⟩
  rintro samples rfl
  have some_samples : samples ≠ [] := List.length_pos_iff.1 pos
  obtain ⟨least, p50, p95, greatest⟩ := ofSamples_percentiles samples
  intro t
  refine ⟨?_, ?_, ?_⟩
  · rw [p50, ← rankOf_half pos few]
    exact hasRank_percentile some_samples half
  · rw [p95, ← rankOf_nineteenTwentieths pos few]
    exact hasRank_percentile some_samples nineteenTwentieths
  · rw [least, p50, p95, greatest exact_n]
    exact pairwise_percentile some_samples (pairwise_rankOf pos few)

/-- The whole numbers from twenty down to one. -/
def countdown : List Binary64 := (List.range 20).reverse.map fun k => .ofNat (k + 1)

/-- Nineteen is the 95th percentile of twenty numbers, and a product with 0.95 that should be a
whole number becomes one also close to the largest number of samples. -/
theorem rankOf_nearest_twenty :
    0 < 20 ∧ 20 < UInt32.size ∧ countdown.length = 20 ∧
      rankOf half 20 = 10 ∧ rankOf nineteenTwentieths 20 = 19 ∧
      (ofSamples countdown).p95 = .ofNat 19 ∧
      ¬(ofSamples countdown).p95.Before (ofSamples countdown).p50 ∧
      rankOf nineteenTwentieths 4294967280 = 4080218916 := by
  have length : countdown.length = 20 := by decide
  obtain ⟨-, -, half_rank, most_rank, samples⟩ := rankOf_nearest (n := 20) (by decide) (by decide)
  obtain ⟨-, -, -, large_rank, -⟩ := rankOf_nearest (n := 4294967280) (by decide) (by decide)
  obtain ⟨-, p95, ordered⟩ := samples countdown length
  have nineteen : HasRank countdown 19 (.ofNat 19) :=
    ⟨by decide +kernel, by decide +kernel, by decide +kernel⟩
  have middle_first := List.pairwise_iff_getElem.1 ordered 1 2 (by decide) (by decide) (by decide)
  exact ⟨by decide, by decide, length, half_rank, most_rank, p95.unique nineteen, middle_first,
    large_rank⟩

end SoakRig.Timing
