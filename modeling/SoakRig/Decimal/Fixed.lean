import SoakRig.Binary64.Basic
import SoakRig.Decimal.Digits

/-!
# Numbers with a fixed number of decimals

The exact value of a floating-point number rounded to some decimals, never with an exponent. A half
goes to the even neighbour, and a negative number keeps its sign even if it rounds to zero.
-/

namespace SoakRig.Decimal

/-- The digits of `scaled / 10 ^ places`, with a point if there are decimals. -/
def pointed (places scaled : Nat) : List Char :=
  let whole := natural (scaled / tenTo places)
  if places = 0 then whole else whole ++ '.' :: padded places (scaled % tenTo places)

/-- The number with the given number of decimals. -/
def fixed (places : Nat) (x : Binary64) : String :=
  let magnitude :=
    if x.isInfinite then "inf".toList
    else
      pointed places (Binary64.roundQuotient (x.units * tenTo places) (twoTo Binary64.unitExponent))
  if x.isNaN then "NaN" else String.ofList ((if x.negative then ['-'] else []) ++ magnitude)

/-- A character that a number with a fixed number of decimals may be written with. -/
def IsNumeral (c : Char) : Prop := c.isDigit ∨ c ∈ "-.infNaN".toList

/-- A number with a fixed number of decimals is written in numerals. -/
theorem isNumeral_of_mem_fixed {places : Nat} {x : Binary64} {c : Char}
    (h : c ∈ (fixed places x).toList) : IsNumeral c := by
  have number {scaled : Nat} (h : c ∈ pointed places scaled) : IsNumeral c := by
    simp only [pointed] at h
    split at h
    · exact .inl (isDigit_of_mem_natural h)
    · rcases List.mem_append.1 h with whole | part
      · exact .inl (isDigit_of_mem_natural whole)
      · rcases List.mem_cons.1 part with rfl | part
        · exact .inr (by decide)
        · exact .inl (isDigit_of_mem_padded part)
  simp only [fixed] at h
  split at h
  · have letters : "NaN".toList ⊆ "-.infNaN".toList := by decide
    exact .inr (letters h)
  · rw [String.toList_ofList] at h
    rcases List.mem_append.1 h with sign | magnitude
    · split at sign
      · rw [List.mem_singleton.1 sign]
        exact .inr (by decide)
      · cases sign
    · split at magnitude
      · have letters : "inf".toList ⊆ "-.infNaN".toList := by decide
        exact .inr (letters magnitude)
      · exact number magnitude

end SoakRig.Decimal
