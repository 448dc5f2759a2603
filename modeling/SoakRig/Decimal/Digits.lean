/-!
# Decimal digits

Whole numbers in decimal notation, and the reading of them back.
-/

namespace SoakRig.Decimal

/-- The decimal digits of a natural number, without leading zeros. -/
def natural (n : Nat) : List Char := Nat.toDigits 10 n

/-- The decimal digits of an integer, after a minus sign if it is negative. -/
def integer : Int → List Char
  | .ofNat n => natural n
  | .negSucc n => '-' :: natural (n + 1)

/-- The decimal digits of a natural number after as many zeros as it takes to fill the width. -/
def padded (width n : Nat) : List Char :=
  List.replicate (width - (natural n).length) '0' ++ natural n

/-- The number that a non-empty row of digits stands for. -/
def natural? (cs : List Char) : Option Nat :=
  if cs ≠ [] ∧ cs.all Char.isDigit then some (Nat.ofDigitChars 10 cs 0) else none

/-- A natural number is written in digits. -/
theorem isDigit_of_mem_natural {n : Nat} {c : Char} (h : c ∈ natural n) : c.isDigit :=
  Nat.isDigit_of_mem_toDigits (by decide) (by decide) h

/-- A padded number is written in digits. -/
theorem isDigit_of_mem_padded {width n : Nat} {c : Char} (h : c ∈ padded width n) : c.isDigit := by
  rcases List.mem_append.1 h with zero | digit
  · rw [List.eq_of_mem_replicate zero]
    rfl
  · exact isDigit_of_mem_natural digit

/-- An integer is written in digits and perhaps a minus sign. -/
theorem isDigit_of_mem_integer {n : Int} {c : Char} (h : c ∈ integer n) : c.isDigit ∨ c = '-' := by
  cases n with
  | ofNat n => exact .inl (isDigit_of_mem_natural h)
  | negSucc n =>
    rcases List.mem_cons.1 h with minus | digit
    · exact .inr minus
    · exact .inl (isDigit_of_mem_natural digit)

@[simp] theorem natural?_natural (n : Nat) : natural? (natural n) = some n := by
  have h : (natural n).all Char.isDigit = true := by
    rw [List.all_eq_true]
    exact fun c hc => isDigit_of_mem_natural hc
  simp only [natural?, natural, Nat.toDigits_ne_nil, ne_eq, not_false_eq_true, true_and] at h ⊢
  simp [h]

/-- Different numbers have different digits. -/
theorem natural_injective {m n : Nat} (h : natural m = natural n) : m = n := by
  have := congrArg natural? h
  simpa using this

theorem ofDigitChars_natural (n : Nat) : Nat.ofDigitChars 10 (natural n) 0 = n :=
  Nat.ofDigitChars_ten_toDigits

/-- Zeros in front of a number do not change what it stands for. -/
theorem ofDigitChars_padded (width n : Nat) : Nat.ofDigitChars 10 (padded width n) 0 = n := by
  rw [padded, Nat.ofDigitChars_append, Nat.ofDigitChars_replicate_zero, Nat.mul_zero,
    ofDigitChars_natural]

/-- A padded number is read back. -/
theorem natural?_padded (width n : Nat) : natural? (padded width n) = some n := by
  have digits : padded width n ≠ [] ∧ (padded width n).all Char.isDigit = true := by
    constructor
    · simp [padded, natural, Nat.toDigits_ne_nil]
    · rw [List.all_eq_true]
      exact fun c hc => isDigit_of_mem_padded hc
  rw [natural?, if_pos digits, ofDigitChars_padded]

/-- Different numbers have different digits, also with zeros in front. -/
theorem padded_injective {width m n : Nat} (h : padded width m = padded width n) : m = n := by
  have := congrArg natural? h
  simpa only [natural?_padded, Option.some.injEq] using this

/-- Only zero is written as zero. -/
theorem integer_eq_zero_iff {n : Int} : integer n = ['0'] ↔ n = 0 := by
  constructor
  · intro h
    cases n with
    | ofNat n => exact congrArg Int.ofNat (natural_injective (m := n) (n := 0) h)
    | negSucc n => cases h
  · rintro rfl
    rfl

end SoakRig.Decimal
