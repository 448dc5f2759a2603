import Mathlib.Algebra.Order.Group.Nat
import SoakRig.Decimal.Fixed

/-!
# Spellings of decimal numbers

A number with a fixed number of decimals may be spelled with fewer of them, if only zeros are left
out. The digits of a spelling, with the zeros put back, stand for the number without its point.
-/

namespace SoakRig.Decimal

variable {places scaled : Nat} {text : List Char}

/-- The spellings of `scaled / 10 ^ places`: with all its decimals, with fewer if only zeros are
left out, and without the point if no decimal is left. -/
inductive Spells (places scaled : Nat) : List Char → Prop where
  | pointed {part : List Char} {zeros : Nat}
      (decimals : part ++ List.replicate zeros '0' = padded places (scaled % tenTo places)) :
      Spells places scaled (natural (scaled / tenTo places) ++ '.' :: part)
  | whole (only_zeros : scaled % tenTo places = 0) :
      Spells places scaled (natural (scaled / tenTo places))

/-- A number that is printed with all its decimals is spelled. -/
lemma spells_pointed (places scaled : Nat) :
    Spells places scaled (Decimal.pointed places scaled) := by
  rw [Decimal.pointed]
  split
  case isTrue none =>
    subst none
    exact .whole (Nat.mod_one scaled)
  case isFalse =>
    exact @Spells.pointed _ _ _ 0 (List.append_nil _)

/-- So many digits are enough for the numbers below that power of ten. -/
lemma length_natural_le {n k : Nat} (pos : 0 < k) : (natural n).length ≤ k ↔ n < tenTo k :=
  Nat.length_toDigits_le_iff (by decide) pos

lemma length_padded {width n : Nat} (pos : 0 < width) (fits : n < tenTo width) :
    (padded width n).length = width := by
  rw [padded, List.length_append, List.length_replicate]
  exact Nat.sub_add_cancel ((length_natural_le pos).2 fits)

section Digits

variable {part : List Char} {zeros : Nat}
  (decimals : part ++ List.replicate zeros '0' = padded places (scaled % tenTo places))
include decimals

/-- The decimals of a spelling are digits. -/
lemma isDigit_of_mem_part {c : Char} (mem : c ∈ part) : c.isDigit := by
  have mem_padded : c ∈ padded places (scaled % tenTo places) := by
    rw [← decimals]
    exact List.mem_append_left _ mem
  exact isDigit_of_mem_padded mem_padded

/-- The decimals and the zeros that are left out fill the places. -/
lemma length_part_add (pos : 0 < places) : part.length + zeros = places := by
  have filled := length_padded pos (Nat.mod_lt scaled (tenTo_pos places))
  rwa [← decimals, List.length_append, List.length_replicate] at filled

/-- The digits of a spelling, with the zeros put back, stand for the number without its point. -/
lemma ofDigitChars_part (pos : 0 < places) :
    Nat.ofDigitChars 10 (natural (scaled / tenTo places) ++ part) 0 * tenTo zeros = scaled := by
  have filled := length_padded pos (Nat.mod_lt scaled (tenTo_pos places))
  have zero_row (digits : Nat) :
      digits * tenTo zeros = Nat.ofDigitChars 10 (List.replicate zeros '0') digits := by
    rw [Nat.ofDigitChars_replicate_zero, Nat.mul_comm]
    rfl
  calc Nat.ofDigitChars 10 (natural (scaled / tenTo places) ++ part) 0 * tenTo zeros
      = Nat.ofDigitChars 10 (padded places (scaled % tenTo places)) (scaled / tenTo places) := by
        rw [zero_row, Nat.ofDigitChars_append, ofDigitChars_natural]
        rw [← Nat.ofDigitChars_append, decimals]
    _ = tenTo places * (scaled / tenTo places) + scaled % tenTo places := by
        rw [Nat.ofDigitChars_eq_ofDigitChars_zero, filled, ofDigitChars_padded]
        rfl
    _ = scaled := Nat.div_add_mod scaled (tenTo places)

end Digits

end SoakRig.Decimal
