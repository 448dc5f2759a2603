import SoakRig.Binary64.Arithmetic
import SoakRig.Proofs.Binary64.Finite

/-!
# Values and the total order

Numbers are ordered by their values, and of the two zeros the negative one comes first. What is no
number lies outside, on the side of its sign. The rank of a bit pattern is its place in that order,
so no two patterns share a place.
-/

namespace SoakRig.Binary64

variable {x y : Binary64}

/-- The bits are those of the magnitude behind the sign. -/
lemma toNat_bits (x : Binary64) :
    x.bits.toNat = (if x.negative then twoTo 63 else 0) + x.magnitude := by
  have half : twoTo 63 = 9223372036854775808 := by decide
  have word := x.bits.toNat_lt
  simp only [negative, magnitude, half, decide_eq_true_eq]
  split <;> omega

/-- A number is known by its sign and its magnitude. -/
lemma eq_of_parts (sign : x.negative = y.negative) (magnitude : x.magnitude = y.magnitude) :
    x = y := by
  have bits : x.bits.toNat = y.bits.toNat := by
    rw [toNat_bits, toNat_bits, sign, magnitude]
  cases x
  cases y
  exact congrArg mk (UInt64.toNat_inj.1 bits)

lemma rank_of_negative (h : x.negative = true) : x.rank = -1 - (x.magnitude : Int) := if_pos h

lemma rank_of_positive (h : x.negative = false) : x.rank = x.magnitude := by
  rw [rank, h]
  rfl

/-- No two numbers share a place in the order, not even the two zeros. -/
lemma eq_of_rank_eq (same : x.rank = y.rank) : x = y := by
  cases hx : x.negative <;> cases hy : y.negative
  case false.false =>
    rw [rank_of_positive hx, rank_of_positive hy] at same
    exact eq_of_parts (hx.trans hy.symm) (by omega)
  case false.true =>
    rw [rank_of_positive hx, rank_of_negative hy] at same
    omega
  case true.false =>
    rw [rank_of_negative hx, rank_of_positive hy] at same
    omega
  case true.true =>
    rw [rank_of_negative hx, rank_of_negative hy] at same
    exact eq_of_parts (hx.trans hy.symm) (by omega)

section Units

lemma units_of_small (small : x.magnitude < twoTo 52) : x.units = x.magnitude := if_pos small

lemma units_of_large {e f : Nat} (parts : x.magnitude = (e + 1) * twoTo 52 + f)
    (rest : f < twoTo 52) : x.units = (twoTo 52 + f) * twoTo e := by
  have large : ¬x.magnitude < twoTo 52 := by
    rw [parts, Nat.add_mul, Nat.one_mul]
    omega
  have exponent : x.magnitude / twoTo 52 = e + 1 := by
    rw [parts, Nat.add_comm, Nat.add_mul_div_right _ _ (twoTo_pos 52), Nat.div_eq_of_lt rest,
      Nat.zero_add]
  have fraction : x.magnitude % twoTo 52 = f := by
    rw [parts, Nat.add_comm, Nat.add_mul_mod_self_right, Nat.mod_eq_of_lt rest]
  refine (if_neg large).trans ?_
  rw [exponent, fraction, Nat.add_sub_cancel]

/-- A significand of up to 53 bits, moved to the left, is what a magnitude stands for. -/
lemma units_of_scaled {spare q : Nat} (parts : x.magnitude = spare * twoTo 52 + q)
    (normal : spare = 0 ∨ twoTo 52 ≤ q) (few : q ≤ twoTo 53) : x.units = q * twoTo spare := by
  have two : twoTo 53 = 2 * twoTo 52 := by decide
  by_cases small : q < twoTo 52
  · obtain rfl : spare = 0 := normal.resolve_right (Nat.not_le.2 small)
    rw [Nat.zero_mul, Nat.zero_add] at parts
    rw [units_of_small (parts ▸ small), parts]
    exact (Nat.mul_one q).symm
  obtain ⟨f, rfl⟩ := Nat.exists_eq_add_of_le (Nat.not_lt.1 small)
  by_cases rest : f < twoTo 52
  · refine units_of_large (parts.trans ?_) rest
    rw [Nat.add_mul, Nat.one_mul, Nat.add_assoc]
  -- the next power of two is the first significand of the next exponent
  · obtain rfl : f = twoTo 52 := by omega
    have next : x.magnitude = (spare + 1 + 1) * twoTo 52 + 0 := by
      rw [parts, Nat.add_mul, Nat.add_mul]
      omega
    rw [units_of_large next (twoTo_pos 52), Nat.add_zero, twoTo_add spare 1, ← Nat.two_mul,
      Nat.mul_comm (twoTo spare), ← Nat.mul_assoc, Nat.mul_comm (twoTo 52)]
    rfl

lemma exists_scaled (x : Binary64) : ∃ spare q, x.magnitude = spare * twoTo 52 + q ∧
    (spare = 0 ∨ twoTo 52 ≤ q) ∧ q < twoTo 53 := by
  have two : twoTo 53 = 2 * twoTo 52 := by decide
  by_cases small : x.magnitude < twoTo 52
  · exact ⟨0, x.magnitude, by omega, .inl rfl, by omega⟩
  · have fraction := Nat.mod_lt x.magnitude (twoTo_pos 52)
    have parts := Nat.div_add_mod' x.magnitude (twoTo 52)
    obtain ⟨e, exponent⟩ : ∃ e, x.magnitude / twoTo 52 = e + 1 :=
      Nat.exists_eq_add_of_le' (Nat.div_pos (Nat.not_lt.1 small) (twoTo_pos 52))
    rw [exponent, Nat.add_mul, Nat.one_mul] at parts
    exact ⟨e, twoTo 52 + x.magnitude % twoTo 52, by omega, .inr (Nat.le_add_right _ _), by omega⟩

/-- A larger magnitude stands for more. -/
lemma units_lt_units (lt : x.magnitude < y.magnitude) : x.units < y.units := by
  have two : twoTo 53 = 2 * twoTo 52 := by decide
  obtain ⟨s, p, x_parts, x_normal, x_few⟩ := exists_scaled x
  obtain ⟨t, q, y_parts, y_normal, y_few⟩ := exists_scaled y
  rw [units_of_scaled x_parts x_normal (Nat.le_of_lt x_few),
    units_of_scaled y_parts y_normal (Nat.le_of_lt y_few)]
  rw [x_parts, y_parts] at lt
  rcases Nat.lt_trichotomy s t with below | rfl | above
  · have full : twoTo 52 ≤ q := y_normal.resolve_left (by omega)
    calc p * twoTo s < twoTo 53 * twoTo s := Nat.mul_lt_mul_of_pos_right x_few (twoTo_pos s)
      _ = twoTo 52 * twoTo (s + 1) := by
        rw [two, twoTo_add s 1, Nat.mul_comm 2, Nat.mul_assoc, Nat.mul_comm 2]
        rfl
      _ ≤ q * twoTo t := Nat.mul_le_mul full (twoTo_le below)
  · exact Nat.mul_lt_mul_of_pos_right (by omega) (twoTo_pos s)
  · have step : (t + 1) * twoTo 52 ≤ s * twoTo 52 := Nat.mul_le_mul_right _ above
    have full : twoTo 52 ≤ p := x_normal.resolve_left (by omega)
    rw [Nat.add_mul, Nat.one_mul] at step
    omega

lemma units_eq_units (same : x.magnitude = y.magnitude) : x.units = y.units := by
  rw [units, units, same]

lemma units_lt_units_iff : x.units < y.units ↔ x.magnitude < y.magnitude := by
  constructor
  · intro lt
    rcases Nat.lt_trichotomy x.magnitude y.magnitude with below | same | above
    · exact below
    · exact absurd (units_eq_units same) (Nat.ne_of_lt lt)
    · exact absurd (units_lt_units above) (Nat.lt_asymm lt)
  · exact units_lt_units

lemma units_eq_zero_iff : x.units = 0 ↔ x.magnitude = 0 := by
  have least : x.units < zero.units + 1 ↔ x.units ≤ zero.units := Nat.lt_succ_iff
  have none_below := units_lt_units_iff (x := zero) (y := x)
  have zero_units : zero.units = 0 := rfl
  have zero_magnitude : zero.magnitude = 0 := rfl
  omega

end Units

lemma isNaN_iff : x.isNaN = true ↔ infiniteMagnitude < x.magnitude := decide_eq_true_iff

lemma not_isNaN_iff : x.isNaN = false ↔ x.magnitude ≤ infiniteMagnitude := by
  rw [← Bool.not_eq_true, isNaN_iff, Nat.not_lt]

/-- The numbers lie from one infinity to the other. -/
lemma rank_of_number (number : x.isNaN = false) :
    -1 - (infiniteMagnitude : Int) ≤ x.rank ∧ x.rank ≤ infiniteMagnitude := by
  rw [not_isNaN_iff] at number
  cases hx : x.negative
  case false =>
    rw [rank_of_positive hx]
    omega
  case true =>
    rw [rank_of_negative hx]
    omega

lemma isZero_iff : x.isZero = true ↔ x.magnitude = 0 := beq_iff_eq

lemma signedUnits_of_negative (h : x.negative = true) : x.signedUnits = -(x.units : Int) := if_pos h

lemma signedUnits_of_positive (h : x.negative = false) : x.signedUnits = x.units := by
  rw [signedUnits, h]
  rfl

/-- One datum comes strictly before the other in the total order. -/
inductive Before (x y : Binary64) : Prop
  /-- Numbers are ordered by their values, infinities included. -/
  | value : x.isNaN = false → y.isNaN = false → x.signedUnits < y.signedUnits → Before x y
  /-- Of the two zeros the negative one comes first. -/
  | zero : x.isZero → y.isZero → x.negative → y.negative = false → Before x y
  /-- What is no number and has a minus sign comes before the numbers. -/
  | front : x.isNaN → x.negative → y.isNaN = false → Before x y
  /-- What is no number and has no minus sign comes behind them. -/
  | back : x.isNaN = false → y.isNaN → y.negative = false → Before x y
  /-- Among what is no number the minus signs come first. -/
  | sign : x.isNaN → y.isNaN → x.negative → y.negative = false → Before x y
  /-- Without a minus sign the quiet bit decides and then the payload, as in the magnitude. -/
  | payload : x.isNaN → y.isNaN → x.negative = false → y.negative = false →
      x.magnitude < y.magnitude → Before x y
  /-- With a minus sign it is the other way round. -/
  | mirrored : x.isNaN → y.isNaN → x.negative → y.negative → y.magnitude < x.magnitude → Before x y

/-- What comes before has the lower rank. -/
lemma Before.rank_lt (before : x.Before y) : x.rank < y.rank := by
  cases before with
  | value _ _ lt =>
    cases hx : x.negative <;> cases hy : y.negative
    case false.false =>
      rw [signedUnits_of_positive hx, signedUnits_of_positive hy] at lt
      rw [rank_of_positive hx, rank_of_positive hy]
      exact Int.ofNat_lt.2 (units_lt_units_iff.1 (Int.ofNat_lt.1 lt))
    case false.true =>
      rw [signedUnits_of_positive hx, signedUnits_of_negative hy] at lt
      omega
    case true.false =>
      rw [rank_of_negative hx, rank_of_positive hy]
      omega
    case true.true =>
      rw [signedUnits_of_negative hx, signedUnits_of_negative hy] at lt
      rw [rank_of_negative hx, rank_of_negative hy]
      have above := units_lt_units_iff.1 (Int.ofNat_lt.1 (Int.neg_lt_neg_iff.1 lt))
      omega
  | zero _ _ hx hy =>
    rw [rank_of_negative hx, rank_of_positive hy]
    omega
  | front nan hx number =>
    rw [isNaN_iff] at nan
    rw [rank_of_negative hx]
    have inside := (rank_of_number number).1
    omega
  | back number nan hy =>
    rw [isNaN_iff] at nan
    rw [rank_of_positive hy]
    have inside := (rank_of_number number).2
    omega
  | sign _ _ hx hy =>
    rw [rank_of_negative hx, rank_of_positive hy]
    omega
  | payload _ _ hx hy lt =>
    rw [rank_of_positive hx, rank_of_positive hy]
    omega
  | mirrored _ _ hx hy lt =>
    rw [rank_of_negative hx, rank_of_negative hy]
    omega

/-- Of two places that differ one comes before the other. -/
lemma before_of_rank_lt (lt : x.rank < y.rank) : x.Before y := by
  cases hx : x.negative <;> cases hy : y.negative
  case false.false =>
    rw [rank_of_positive hx, rank_of_positive hy] at lt
    cases x_nan : x.isNaN <;> cases y_nan : y.isNaN
    case false.false =>
      apply Before.value x_nan y_nan
      rw [signedUnits_of_positive hx, signedUnits_of_positive hy]
      exact Int.ofNat_lt.2 (units_lt_units (Int.ofNat_lt.1 lt))
    case false.true => exact .back x_nan y_nan hy
    case true.false =>
      rw [isNaN_iff] at x_nan
      rw [not_isNaN_iff] at y_nan
      omega
    case true.true => exact .payload x_nan y_nan hx hy (Int.ofNat_lt.1 lt)
  case false.true =>
    rw [rank_of_positive hx, rank_of_negative hy] at lt
    omega
  case true.false =>
    cases x_nan : x.isNaN <;> cases y_nan : y.isNaN
    case false.false =>
      by_cases zeros : x.magnitude = 0 ∧ y.magnitude = 0
      · exact .zero (isZero_iff.2 zeros.1) (isZero_iff.2 zeros.2) hx hy
      · apply Before.value x_nan y_nan
        rw [signedUnits_of_negative hx, signedUnits_of_positive hy]
        rw [← units_eq_zero_iff, ← units_eq_zero_iff] at zeros
        omega
    case false.true => exact .back x_nan y_nan hy
    case true.false => exact .front x_nan hx y_nan
    case true.true => exact .sign x_nan y_nan hx hy
  case true.true =>
    rw [rank_of_negative hx, rank_of_negative hy] at lt
    have above : y.magnitude < x.magnitude := by omega
    cases x_nan : x.isNaN <;> cases y_nan : y.isNaN
    case false.false =>
      apply Before.value x_nan y_nan
      rw [signedUnits_of_negative hx, signedUnits_of_negative hy]
      exact Int.neg_lt_neg (Int.ofNat_lt.2 (units_lt_units above))
    case false.true =>
      rw [isNaN_iff] at y_nan
      rw [not_isNaN_iff] at x_nan
      omega
    case true.false => exact .front x_nan hx y_nan
    case true.true => exact .mirrored x_nan y_nan hx hy above

/-- The rank of a datum is its place in the total order. -/
lemma before_iff : x.Before y ↔ x.rank < y.rank := ⟨Before.rank_lt, before_of_rank_lt⟩

instance (x y : Binary64) : Decidable (x.Before y) := decidable_of_iff _ before_iff.symm

/-- Two data neither of which comes before the other are the same bits. -/
lemma eq_of_not_before (not_before : ¬x.Before y) (not_behind : ¬y.Before x) : x = y := by
  rw [before_iff, Int.not_lt] at not_before not_behind
  exact eq_of_rank_eq (Int.le_antisymm not_behind not_before)

end SoakRig.Binary64
