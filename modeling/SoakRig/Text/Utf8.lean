/-!
# UTF-8

Characters as bytes, and bytes as characters in two ways: strictly, up to the first byte that is ill
formed, and with replacement, where every maximal ill-formed piece becomes one replacement character.
-/

namespace SoakRig.Text

/-- The bytes of a text. -/
def utf8 (text : List Char) : List UInt8 := text.flatMap String.utf8EncodeChar

@[simp] theorem utf8_append (text more : List Char) :
    utf8 (text ++ more) = utf8 text ++ utf8 more := List.flatMap_append

namespace Utf8

/-- How many bytes follow a first byte, and the range of the byte right after it. -/
def tails? (b : UInt8) : Option (Nat × UInt8 × UInt8) :=
  if b < 0x80 then some (0, 0x80, 0xBF)
  else if 0xC2 ≤ b && b ≤ 0xDF then some (1, 0x80, 0xBF)
  else if b == 0xE0 then some (2, 0xA0, 0xBF)
  else if b == 0xED then some (2, 0x80, 0x9F)
  else if 0xE1 ≤ b && b ≤ 0xEF then some (2, 0x80, 0xBF)
  else if b == 0xF0 then some (3, 0x90, 0xBF)
  else if 0xF1 ≤ b && b ≤ 0xF3 then some (3, 0x80, 0xBF)
  else if b == 0xF4 then some (3, 0x80, 0x8F)
  else none

/-- The payload of a first byte that `count` bytes follow. -/
def payload (b : UInt8) : Nat → Nat
  | 0 => b.toNat
  | 1 => b.toNat % 0x20
  | 2 => b.toNat % 0x10
  | _ => b.toNat % 0x08

/--
Reads `count` more bytes of a character, the next one from `low` to `high`: the code point and the
rest, or nothing and the bytes from the first one that does not belong.
-/
def readTails : (count : Nat) → (low high : UInt8) → (code : Nat) → List UInt8 →
    Option Nat × List UInt8
  | 0, _, _, code, rest => (some code, rest)
  | _ + 1, _, _, _, [] => (none, [])
  | count + 1, low, high, code, b :: rest =>
    if low ≤ b && b ≤ high then
      readTails count 0x80 0xBF (code * 0x40 + b.toNat % 0x40) rest
    else (none, b :: rest)

theorem length_readTails (count : Nat) (low high : UInt8) (code : Nat) (bytes : List UInt8) :
    (readTails count low high code bytes).2.length ≤ bytes.length := by
  induction count generalizing low high code bytes with
  | zero => simp [readTails]
  | succ count ih =>
    cases bytes with
    | nil => simp [readTails]
    | cons b rest =>
      simp only [readTails]
      split
      · exact Nat.le_succ_of_le (ih ..)
      · simp

/-- Reads one character, or one maximal ill-formed piece, that starts with byte `b`. -/
def readOne (b : UInt8) (rest : List UInt8) : Option Nat × List UInt8 :=
  match tails? b with
  | none => (none, rest)
  | some (count, low, high) => readTails count low high (payload b count) rest

theorem length_readOne (b : UInt8) (rest : List UInt8) :
    (readOne b rest).2.length ≤ rest.length := by
  unfold readOne
  split
  · simp
  · exact length_readTails ..

/-- The character that stands for an ill-formed piece. -/
def replacement : Char := '\uFFFD'

/-- Decodes with replacement, after the characters `done` (newest first). -/
def decodeOnto (done : List Char) : List UInt8 → List Char
  | [] => done.reverse
  | b :: rest =>
    let one := readOne b rest
    decodeOnto ((one.1.map Char.ofNat).getD replacement :: done) one.2
termination_by bytes => bytes.length
decreasing_by exact Nat.lt_succ_of_le (length_readOne b rest)

/-- Decodes up to the first ill-formed byte, after the characters `done` (newest first): the characters
and the bytes that are left. -/
def decodeFrontOnto (done : List Char) : List UInt8 → List Char × List UInt8
  | [] => (done.reverse, [])
  | b :: rest =>
    let one := readOne b rest
    match one.1 with
    | none => (done.reverse, b :: rest)
    | some code => decodeFrontOnto (Char.ofNat code :: done) one.2
termination_by bytes => bytes.length
decreasing_by exact Nat.lt_succ_of_le (length_readOne b rest)

end Utf8

/-- The text of the bytes, each maximal ill-formed piece read as one replacement character. -/
def decodeReplacing (bytes : List UInt8) : List Char := Utf8.decodeOnto [] bytes

/-- The text at the front of the bytes, and the bytes from the first ill-formed one. -/
def decodeFront (bytes : List UInt8) : List Char × List UInt8 := Utf8.decodeFrontOnto [] bytes

/-- The text of the bytes, if they are well formed. -/
def decode? (bytes : List UInt8) : Option (List Char) :=
  match decodeFront bytes with
  | (text, []) => some text
  | _ => none

/-- The bytes as messages show them. -/
def shown (bytes : List UInt8) : String := String.ofList (decodeReplacing bytes)

end SoakRig.Text
