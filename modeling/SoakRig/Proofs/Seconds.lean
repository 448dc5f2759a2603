import SoakRig.Proofs.Binary64.Reading
import SoakRig.Seconds

/-!
# Lengths of time without loss

A number of nanoseconds that is spelled in seconds is rounded twice: to the nearest floating-point
number, and from there to the nearest nanosecond. Below 2 to the power 23 seconds the first rounding
is off by less than half a nanosecond, so the second one undoes it.
-/

namespace SoakRig

namespace Duration

open Binary64 (unitExponent nearest spare)

variable {n : Nat}

/-- So many seconds are less than the next power of two, counted in units. -/
lemma seconds_lt (few : n < twoTo 23 * perSecond) :
    n * twoTo unitExponent / perSecond < twoTo (23 + unitExponent) := by
  apply Nat.div_lt_of_lt_mul
  calc n * twoTo unitExponent < twoTo 23 * perSecond * twoTo unitExponent :=
        Nat.mul_lt_mul_of_pos_right few (twoTo_pos unitExponent)
    _ = perSecond * twoTo (23 + unitExponent) := by
        rw [Nat.mul_comm (twoTo 23), Nat.mul_assoc, twoTo_add]

lemma spare_seconds_le (few : n < twoTo 23 * perSecond) :
    spare (n * twoTo unitExponent) perSecond ≤ 1044 := by
  have room := Binary64.spare_lt (seconds_lt few) (by decide)
  unfold unitExponent at room ⊢
  omega

/-- The last place of so many seconds is less than a nanosecond. -/
lemma last_place_lt (few : n < twoTo 23 * perSecond) :
    perSecond * twoTo (spare (n * twoTo unitExponent) perSecond) < twoTo unitExponent := by
  calc perSecond * twoTo (spare (n * twoTo unitExponent) perSecond)
      ≤ perSecond * twoTo 1044 := Nat.mul_le_mul_left _ (twoTo_le (spare_seconds_le few))
    _ < twoTo 30 * twoTo 1044 := Nat.mul_lt_mul_of_pos_right (by decide) (twoTo_pos 1044)
    _ = twoTo unitExponent := (twoTo_add 30 1044).symm

/-- So many seconds stay below the limit. -/
lemma units_seconds_lt (few : n < twoTo 23 * perSecond) :
    (nearest false (n * twoTo unitExponent) perSecond).units <
      secondsLimit * twoTo unitExponent := by
  have below := seconds_lt few
  have finite := Binary64.nearestMagnitude_lt (by decide) below
  have place : twoTo (spare (n * twoTo unitExponent) perSecond) ∣ twoTo (23 + unitExponent) :=
    twoTo_dvd (Nat.le_trans (spare_seconds_le few) (by decide))
  have quotient := (Nat.div_lt_iff_lt_mul (tenTo_pos 9)).1 below
  apply Nat.lt_of_le_of_lt (Binary64.units_nearest_le false (tenTo_pos 9) finite place quotient.le)
  rw [twoTo_add]
  exact Nat.mul_lt_mul_of_pos_right (by decide) (twoTo_pos unitExponent)

/-- The number nearest to so many nanoseconds is rounded back to them. -/
lemma ofSeconds?_nearest (few : n < twoTo 23 * perSecond) :
    ofSeconds? (nearest false (n * twoTo unitExponent) perSecond) = some ⟨n⟩ := by
  have below := seconds_lt few
  have finite := Binary64.isFinite_nearest false (by decide) below
  have number := Binary64.isNaN_of_isFinite finite
  have bounded := Binary64.isInfinite_of_isFinite finite
  have sign := Binary64.negative_nearest false (n * twoTo unitExponent) perSecond
  have inside := Nat.not_le.2 (units_seconds_lt few)
  obtain ⟨upper, lower⟩ := Binary64.units_nearest_near false (tenTo_pos 9)
    (Binary64.nearestMagnitude_lt (by decide) below)
  have place := last_place_lt few
  simp only [ofSeconds?, number, bounded, sign, inside, Bool.or_self, Bool.false_and,
    Bool.false_eq_true, if_false]
  refine congrArg (fun n => some (Duration.mk n)) (Binary64.roundQuotient_eq_of_near
    (twoTo_pos unitExponent) ?_ ?_)
  · exact Nat.lt_of_le_of_lt lower (Nat.add_lt_add_left place _)
  · exact Nat.lt_of_le_of_lt upper (Nat.add_lt_add_left place _)

end Duration

namespace Seconds

open Duration (perSecond)

variable {n : Nat} {text : String}

lemma pause_of_read {x : Binary64} {d : Duration} (read : Binary64.ofText? text.toList = some x)
    (inside : Duration.ofSeconds? x = some d) : pause text = .ok d := by
  simp only [pause, read, inside]

/--
A number of nanoseconds below 2 to the power 23 seconds that is spelled in seconds, with all nine
decimals or without the zeros at the end, is read as a pause of exactly so many nanoseconds. As a
limit it is the same, unless it is zero, which is no limit.
-/
theorem pause_spelled (few : n < twoTo 23 * perSecond) (spelled : Decimal.Spells 9 n text.toList) :
    pause text = .ok ⟨n⟩ ∧ limit text = if n = 0 then .error .zeroLimit else .ok ⟨n⟩ := by
  have small : n < tenTo 400 := Nat.lt_trans few (by decide +kernel)
  have read := Binary64.ofText?_spelled (by decide) (by decide) small spelled
  have paused := pause_of_read read (Duration.ofSeconds?_nearest few)
  refine ⟨paused, ?_⟩
  simp only [limit, paused, Duration.zero, Duration.mk.injEq]

/-- Thirty seconds and three tenths, and no time at all with all its decimals. -/
theorem pause_spelled_tenths_and_zero :
    (30300000000 < twoTo 23 * perSecond ∧ Decimal.Spells 9 30300000000 "30.3".toList ∧
      pause "30.3" = .ok ⟨30300000000⟩ ∧ limit "30.3" = .ok ⟨30300000000⟩) ∧
    (0 < twoTo 23 * perSecond ∧ Decimal.Spells 9 0 "0.000000000".toList ∧
      pause "0.000000000" = .ok ⟨0⟩ ∧ limit "0.000000000" = .error .zeroLimit) := by
  have tenths_few : 30300000000 < twoTo 23 * perSecond := by decide
  have zero_few : 0 < twoTo 23 * perSecond := by decide
  have tenths : Decimal.Spells 9 30300000000 "30.3".toList :=
    @Decimal.Spells.pointed _ _ ['3'] 8 (by decide)
  have zero : Decimal.Spells 9 0 "0.000000000".toList := Decimal.spells_pointed 9 0
  exact ⟨⟨tenths_few, tenths, pause_spelled tenths_few tenths⟩, zero_few, zero,
    pause_spelled zero_few zero⟩

end Seconds

end SoakRig
