import SoakRig.Text.Search
import SoakRig.Text.Utf8

/-!
# Form encoding

Names and values in a query: pairs between ampersands, names before the first equals sign, a plus
for a blank, and percent signs before the hexadecimal digits of a byte.
-/

namespace SoakRig.Http.Form

/-- The value of a hexadecimal digit. -/
def digit? (b : UInt8) : Option UInt8 :=
  if 0x30 ≤ b && b ≤ 0x39 then some (b - 0x30)
  else if 0x41 ≤ b && b ≤ 0x46 then some (b - 0x37)
  else if 0x61 ≤ b && b ≤ 0x66 then some (b - 0x57)
  else none

/-- Decodes bytes. A percent sign without two digits stands for itself. -/
def decodeBytes : List UInt8 → List UInt8
  | [] => []
  | 0x2B :: rest => 0x20 :: decodeBytes rest
  | 0x25 :: h :: l :: rest =>
    match digit? h, digit? l with
    | some high, some low => (high * 16 + low) :: decodeBytes rest
    | _, _ => 0x25 :: decodeBytes (h :: l :: rest)
  | b :: rest => b :: decodeBytes rest

/-- Decodes a name or a value. -/
def decode (bytes : List UInt8) : String :=
  String.ofList (Text.decodeReplacing (decodeBytes bytes))

/-- The pieces of a row of bytes between the separators. -/
def pieces (separator : UInt8) : List UInt8 → List (List UInt8)
  | [] => [[]]
  | b :: bs =>
    if b = separator then [] :: pieces separator bs
    else
      match pieces separator bs with
      | [] => [[b]]
      | piece :: rest => (b :: piece) :: rest

/-- Decodes one pair. -/
def pair (bytes : List UInt8) : String × String :=
  let name := bytes.takeWhile (· ≠ 0x3D)
  (decode name, decode (bytes.drop (name.length + 1)))

/-- Decodes a query. -/
def pairs (query : String) : List (String × String) :=
  ((pieces 0x26 (Text.utf8 query.toList)).filter (· ≠ [])).map pair

/-- The value of a field that may be given once. -/
def single (name : String) (fields : List (String × String)) : Except Unit (Option String) :=
  match fields.filter (·.1 = name) with
  | [] => .ok none
  | [(_, value)] => .ok (some value)
  | _ => .error ()

end SoakRig.Http.Form
