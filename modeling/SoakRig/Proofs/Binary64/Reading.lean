import Mathlib.Data.List.TakeDrop
import Mathlib.Data.List.TakeWhile
import SoakRig.Binary64.Literal
import SoakRig.Proofs.Binary64.Rounding
import SoakRig.Proofs.Decimal.Spelling

/-!
# Reading spelled numbers

Every spelling of a decimal number is read as the number nearest to it. The reader takes the digits
up to the point and those after it, which is the number without its point, and counts the decimals
that are there. Whatever zeros are left out, the fraction is the same.
-/

namespace SoakRig.Binary64

section Scanner

variable {whole part rest : List Char} {c : Char}

/-- Digits are taken off the front of a text, up to what is no digit. -/
lemma span_digits (digits : ∀ c ∈ whole, c.isDigit) (stop : c.isDigit = false) :
    (whole ++ c :: rest).span Char.isDigit = (whole, c :: rest) := by
  rw [List.span_eq_takeWhile_dropWhile, List.takeWhile_append_of_pos digits,
    List.dropWhile_append_of_pos digits, List.takeWhile_cons_of_neg (by rw [stop]; decide),
    List.dropWhile_cons_of_neg (by rw [stop]; decide), List.append_nil]

/-- A text of digits is taken whole. -/
lemma span_all_digits (digits : ∀ c ∈ whole, c.isDigit) :
    whole.span Char.isDigit = (whole, []) := by
  rw [List.span_eq_takeWhile_dropWhile, List.takeWhile_eq_self_iff.2 digits,
    List.dropWhile_eq_nil_iff.2 digits]

lemma natural?_digits (some_digit : whole ≠ []) (digits : ∀ c ∈ whole, c.isDigit) :
    Decimal.natural? whole = some (Nat.ofDigitChars 10 whole 0) :=
  if_pos ⟨some_digit, List.all_eq_true.2 digits⟩

/-- Digits around a point are read as the number without the point, and the decimals are counted. -/
lemma read?_pointed (some_digit : whole ≠ []) (before : ∀ c ∈ whole, c.isDigit)
    (behind : ∀ c ∈ part, c.isDigit) :
    Literal.read? (whole ++ '.' :: part) =
      some ⟨Nat.ofDigitChars 10 (whole ++ part) 0, 0 - part.length⟩ := by
  have digits : ∀ c ∈ whole ++ part, c.isDigit := fun c mem =>
    (List.mem_append.1 mem).elim (before c) (behind c)
  have number := natural?_digits (List.append_ne_nil_of_left_ne_nil some_digit part) digits
  simp only [Literal.read?, span_digits before (show Char.isDigit '.' = false by decide),
    Literal.fraction, span_all_digits behind, number, Literal.exponent?]

/-- Digits without a point are read as they are. -/
lemma read?_whole (some_digit : whole ≠ []) (digits : ∀ c ∈ whole, c.isDigit) :
    Literal.read? whole = some ⟨Nat.ofDigitChars 10 whole 0, 0 - (0 : Nat)⟩ := by
  have number := natural?_digits some_digit digits
  simp only [Literal.read?, span_all_digits digits, Literal.fraction, List.append_nil, number,
    Literal.exponent?]
  rfl

lemma toLower_digit (digit : c.isDigit) : c.toLower = c := by
  have last : c.val ≤ '9'.val := of_decide_eq_true (Bool.and_eq_true_iff.1 digit).2
  apply dif_neg
  rintro ⟨letter, -⟩
  exact absurd (UInt32.le_trans letter last) (by decide)

/-- A text that starts with a digit has no sign. -/
lemma sign_digit (digit : c.isDigit) : Literal.sign (c :: rest) = (false, c :: rest) := by
  unfold Literal.sign
  split
  case h_1 minus =>
    cases minus
    cases digit
  case h_2 plus =>
    cases plus
    cases digit
  case h_3 => rfl

/-- A text that starts with a digit is no name that starts with a letter. -/
lemma toLower_ne_name {letter : Char} (digit : c.isDigit) (no_digit : letter.isDigit = false)
    (letters : List Char) :
    String.ofList ((c :: rest).map Char.toLower) ≠ String.ofList (letter :: letters) := by
  intro same
  have first := (List.cons.inj (String.ofList_inj.1 same)).1
  rw [toLower_digit digit] at first
  rw [← first, digit] at no_digit
  cases no_digit

/-- A text that starts with digits is read without a sign, and as no name. -/
lemma ofText?_of_digits (some_digit : whole ≠ []) (digits : ∀ c ∈ whole, c.isDigit) :
    ofText? (whole ++ rest) =
      (Literal.read? (whole ++ rest)).map fun l => ofParts false l.toMagnitude := by
  obtain ⟨c, whole, rfl⟩ := List.exists_cons_of_ne_nil some_digit
  have digit := digits c List.mem_cons_self
  simp only [List.cons_append, ofText?, sign_digit digit]
  rw [if_neg, if_neg]
  · exact toLower_ne_name digit (by decide) "an".toList
  · rintro (short | long)
    · exact toLower_ne_name digit (by decide) "nf".toList short
    · exact toLower_ne_name digit (by decide) "nfinity".toList long

end Scanner

section Magnitude

variable {digits used zeros places scaled : Nat}

/-- A fraction that is neither too long nor too large has the magnitude nearest to it. -/
lemma toMagnitude_fraction (few : used ≤ 400) (small : digits < tenTo 400) :
    Literal.toMagnitude ⟨digits, 0 - used⟩ =
      nearestMagnitude (digits * twoTo unitExponent) (tenTo used) := by
  have longest := (Decimal.length_natural_le (by decide)).2 small
  have shortest : 0 < (Decimal.natural digits).length := Nat.length_toDigits_pos
  have not_tiny :
      ¬(Decimal.natural digits).length + (0 - (used : Int)) < -Literal.exponentLimit := by
    unfold Literal.exponentLimit
    omega
  have not_huge :
      ¬Literal.exponentLimit < (Decimal.natural digits).length + (0 - (used : Int)) := by
    unfold Literal.exponentLimit
    omega
  have no_factor : (0 - (used : Int)).toNat = 0 := by omega
  have divisor : (-(0 - (used : Int))).toNat = used := by omega
  simp only [Literal.toMagnitude, not_tiny, not_huge, or_false, if_false, no_factor, divisor]
  split
  case isTrue nothing => rw [nothing, Nat.zero_mul, nearestMagnitude_zero (tenTo_pos used)]
  case isFalse => rw [show tenTo 0 = 1 from rfl, Nat.mul_one]

/-- The zeros that are left out make no difference to the number. -/
lemma ofParts_toMagnitude (filled : used + zeros = places) (number : digits * tenTo zeros = scaled)
    (few : places ≤ 400) (small : scaled < tenTo 400) :
    ofParts false (Literal.toMagnitude ⟨digits, 0 - used⟩) =
      nearest false (scaled * twoTo unitExponent) (tenTo places) := by
  have fewer : digits ≤ scaled := by
    rw [← number]
    exact Nat.le_mul_of_pos_right digits (tenTo_pos zeros)
  rw [toMagnitude_fraction (by omega) (Nat.lt_of_le_of_lt fewer small)]
  calc nearest false (digits * twoTo unitExponent) (tenTo used)
      = nearest false (digits * twoTo unitExponent * tenTo zeros) (tenTo used * tenTo zeros) :=
        (nearest_mul_right false _ _ (tenTo_pos zeros)).symm
    _ = nearest false (scaled * twoTo unitExponent) (tenTo places) := by
        rw [Nat.mul_right_comm, number, ← tenTo_add, filled]

end Magnitude

/-- Every spelling of a decimal number is read as the number nearest to it. -/
lemma ofText?_spelled {places scaled : Nat} {text : List Char} (some_place : 0 < places)
    (few : places ≤ 400) (small : scaled < tenTo 400)
    (spelled : Decimal.Spells places scaled text) :
    ofText? text = some (nearest false (scaled * twoTo unitExponent) (tenTo places)) := by
  have some_digit : Decimal.natural (scaled / tenTo places) ≠ [] := Nat.toDigits_ne_nil
  have before : ∀ c ∈ Decimal.natural (scaled / tenTo places), c.isDigit :=
    fun _ => Decimal.isDigit_of_mem_natural
  cases spelled with
  | @pointed part zeros decimals =>
    have behind : ∀ c ∈ part, c.isDigit := fun _ => Decimal.isDigit_of_mem_part decimals
    rw [ofText?_of_digits some_digit before, read?_pointed some_digit before behind]
    apply congrArg some
    exact ofParts_toMagnitude (Decimal.length_part_add decimals some_place)
      (Decimal.ofDigitChars_part decimals some_place) few small
  | whole only_zeros =>
    have read := @ofText?_of_digits _ [] some_digit before
    rw [List.append_nil] at read
    rw [read, read?_whole some_digit before]
    apply congrArg some
    refine ofParts_toMagnitude (Nat.zero_add places) ?_ few small
    rw [Decimal.ofDigitChars_natural]
    exact Nat.div_mul_cancel (Nat.dvd_of_mod_eq_zero only_zeros)

end SoakRig.Binary64
