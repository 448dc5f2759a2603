import SoakRig.Binary64.Literal

/-!
# The shortest decimal text of a number

The fewest digits that read back as the same number, and of those the nearest; written with a point
where the number is of ordinary size and with an exponent elsewhere.
-/

namespace SoakRig.Decimal

/-- A positive number below one with the given digits after the point, times a power of ten. -/
structure Scientific where
  digits : List Char
  power : Int

/-- The power of ten that the smallest numbers are scaled by when their size is measured. -/
def measure : Nat := 400

/-- The least power of ten above a positive number of units. -/
def orderOf (units : Nat) : Int :=
  (natural (units * tenTo measure / twoTo Binary64.unitExponent)).length - (measure : Int)

/-- The multiple of `10 ^ k` just below a number of units, and twice what is left in that step. -/
def below (units : Nat) (k : Int) : Nat × Nat × Nat :=
  let num := units * tenTo (-k).toNat
  let den := tenTo k.toNat * twoTo Binary64.unitExponent
  (num / den, 2 * (num % den), den)

/-- The nearest of the two neighbours on the grid `10 ^ k` that read back as the magnitude. -/
def onGrid? (magnitude units : Nat) (k : Int) : Option Nat :=
  let (low, twiceLeft, step) := below units k
  let back (n : Nat) : Bool := (Binary64.Literal.mk n k).toMagnitude == magnitude
  match back low, back (low + 1) with
  | true, true => some (if twiceLeft ≤ step then low else low + 1)
  | true, false => some low
  | false, true => some (low + 1)
  | false, false => none

/-- The digits without trailing zeros. -/
def trimmed (digits : List Char) : List Char :=
  (digits.reverse.dropWhile (· == '0')).reverse

/-- The shortest digits of a finite number other than zero. -/
def scientific (x : Binary64) : Scientific :=
  let order := orderOf x.units
  let found := (List.range 17).findSome? fun n =>
    let k := order - (n + 1 : Nat)
    (onGrid? x.magnitude x.units k).map fun c => (c, k)
  let (c, k) := found.getD (0, 0)
  ⟨trimmed (natural c), (natural c).length + k⟩

/-- The powers of ten between which a number is written without an exponent. -/
structure Style where
  least : Int
  most : Int

/-- Numbers in readable log lines have no exponent from 0.0001 to below ten to the 16. -/
def Style.readable : Style := ⟨-3, 16⟩

/-- Numbers in structured log lines have no exponent from 0.00001 to below ten to the 16. -/
def Style.structured : Style := ⟨-4, 16⟩

/-- Digits with a point, at least one on each side. -/
def Scientific.positional (s : Scientific) : List Char :=
  if s.power ≤ 0 then
    '0' :: '.' :: (List.replicate (-s.power).toNat '0' ++ s.digits)
  else
    let whole := s.power.toNat
    let part := s.digits.drop whole
    s.digits.take whole ++ List.replicate (whole - s.digits.length) '0' ++
      '.' :: (if part.isEmpty then ['0'] else part)

/-- Digits with a point after the first one, and an exponent. -/
def Scientific.exponential (s : Scientific) : List Char :=
  let part := s.digits.drop 1
  s.digits.take 1 ++ (if part.isEmpty then [] else '.' :: part) ++ 'e' :: integer (s.power - 1)

/-- The shortest text of a number. -/
def shortest (style : Style) (x : Binary64) : String :=
  if x.isNaN then "NaN"
  else
    let magnitude :=
      if x.isInfinite then "inf".toList
      else if x.isZero then "0.0".toList
      else
        let s := scientific x
        if style.least ≤ s.power ∧ s.power ≤ style.most then s.positional else s.exponential
    String.ofList ((if x.negative then ['-'] else []) ++ magnitude)

end SoakRig.Decimal
