import SoakRig.Binary64.Basic
import SoakRig.Decimal.Digits

/-!
# Decimal texts of floating-point numbers

The texts that are read as numbers: an optional sign, then `inf`, `infinity` or `nan` in any case,
or digits with an optional point and an optional exponent. The number is the nearest one.
-/

namespace SoakRig.Binary64

/-- Digits that stand for `digits * 10 ^ exponent`. -/
structure Literal where
  digits : Nat
  exponent : Int

namespace Literal

/-- The sign in front of a text, and the text after it. -/
def sign : List Char → Bool × List Char
  | '-' :: rest => (true, rest)
  | '+' :: rest => (false, rest)
  | text => (false, text)

/-- The exponent at the end of a literal: nothing, or a letter E, a sign and digits. -/
def exponent? : List Char → Option Int
  | [] => some 0
  | c :: rest =>
    if c = 'e' ∨ c = 'E' then
      let (negative, digits) := sign rest
      (Decimal.natural? digits).map fun n => if negative then -(n : Int) else n
    else none

/-- The digits after a point at the front of a text, and the text after them. -/
def fraction : List Char → List Char × List Char
  | '.' :: rest => rest.span Char.isDigit
  | text => ([], text)

/-- Reads digits with an optional point and an optional exponent. -/
def read? (text : List Char) : Option Literal :=
  let (whole, afterWhole) := text.span Char.isDigit
  let (part, afterPart) := fraction afterWhole
  match Decimal.natural? (whole ++ part), exponent? afterPart with
  | some digits, some exponent => some ⟨digits, exponent - part.length⟩
  | _, _ => none

/-- Beyond this power of ten every number is infinite, and beyond its inverse every number is zero. -/
def exponentLimit : Int := 400

/-- The magnitude nearest to the literal. -/
def toMagnitude (l : Literal) : Nat :=
  let order := (Decimal.natural l.digits).length + l.exponent
  if l.digits = 0 ∨ order < -exponentLimit then 0
  else if exponentLimit < order then infiniteMagnitude
  else
    nearestMagnitude (l.digits * tenTo l.exponent.toNat * twoTo unitExponent)
      (tenTo (-l.exponent).toNat)

end Literal

/-- Reads the text of a number. -/
def ofText? (text : List Char) : Option Binary64 :=
  let (negative, unsigned) := Literal.sign text
  let name := String.ofList (unsigned.map Char.toLower)
  if name = "inf" ∨ name = "infinity" then some (infinity negative)
  else if name = "nan" then some (if negative then ofParts true nan.magnitude else nan)
  else (Literal.read? unsigned).map fun l => ofParts negative l.toMagnitude

end SoakRig.Binary64
