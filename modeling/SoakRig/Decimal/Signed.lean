import SoakRig.Powers

/-!
# Whole numbers with a sign

The texts of whole numbers that fit into 64 bits, and why other texts are refused. The text is read
from the left, and the first thing that is wrong with it counts.
-/

namespace SoakRig.Decimal

/-- Why a text is no whole number. -/
inductive SignedError where
  | empty
  | badDigit
  | tooLarge
  | tooSmall
deriving DecidableEq

def SignedError.message : SignedError → String
  | empty => "cannot parse integer from empty string"
  | badDigit => "invalid digit found in string"
  | tooLarge => "number too large to fit in target type"
  | tooSmall => "number too small to fit in target type"

/-- Reads digits after the number `n`, which must not pass the limit. -/
def readDigits (limit : Nat) (passed : SignedError) (n : Nat) :
    List Char → Except SignedError Nat
  | [] => .ok n
  | c :: cs =>
    if !c.isDigit then .error .badDigit
    else
      let m := n * 10 + (c.toNat - '0'.toNat)
      if limit < m then .error passed else readDigits limit passed m cs

/-- Reads a number of 64 bits with an optional sign. -/
def signed (text : List Char) : Except SignedError Int :=
  match text with
  | [] => .error .empty
  | ['-'] => .error .badDigit
  | ['+'] => .error .badDigit
  | '-' :: digits => (readDigits (twoTo 63) .tooSmall 0 digits).map fun n => -(n : Int)
  | '+' :: digits => (readDigits (twoTo 63 - 1) .tooLarge 0 digits).map Int.ofNat
  | digits => (readDigits (twoTo 63 - 1) .tooLarge 0 digits).map Int.ofNat

end SoakRig.Decimal
