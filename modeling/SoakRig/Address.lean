import SoakRig.Decimal.Digits

/-!
# Network addresses

Addresses of four bytes and of eight groups, their texts, and the reading of them.
-/

namespace SoakRig

/-- A network address. -/
inductive Address where
  | v4 (a b c d : Nat)
  | v6 (groups : List Nat)
deriving DecidableEq

namespace Address

/-- The value of a digit in a number system. -/
def digit? (radix : Nat) (c : Char) : Option Nat :=
  let value :=
    if c.isDigit then some (c.toNat - '0'.toNat)
    else if 'a' ≤ c ∧ c ≤ 'f' then some (c.toNat - 'a'.toNat + 10)
    else if 'A' ≤ c ∧ c ≤ 'F' then some (c.toNat - 'A'.toNat + 10)
    else none
  value.filter (· < radix)

/-- Reads a number with at most so many digits and at most so large. -/
def readNumber (radix width limit : Nat) (text : List Char) : Option (Nat × List Char) :=
  let (digits, rest) := text.span fun c => (digit? radix c).isSome
  let n := (digits.filterMap (digit? radix)).foldl (fun n d => n * radix + d) 0
  if digits = [] ∨ width < digits.length ∨ limit < n then none else some (n, rest)

/-- Reads one of the four bytes, which is written without leading zeros. -/
def readByte (text : List Char) : Option (Nat × List Char) :=
  match text with
  | '0' :: c :: _ => if c.isDigit then none else readNumber 10 3 255 text
  | _ => readNumber 10 3 255 text

/-- Reads a character. -/
def expect (c : Char) : List Char → Option (List Char)
  | [] => none
  | d :: rest => if d = c then some rest else none

/-- Reads four bytes with points between them. -/
def readFour (text : List Char) : Option ((Nat × Nat × Nat × Nat) × List Char) := do
  let (a, rest) ← readByte text
  let (b, rest) ← readByte (← expect '.' rest)
  let (c, rest) ← readByte (← expect '.' rest)
  let (d, rest) ← readByte (← expect '.' rest)
  return ((a, b, c, d), rest)

/-- Groups that were read: whether four bytes ended them, and what follows. -/
structure Groups where
  groups : List Nat
  endsInFour : Bool
  rest : List Char

/-- Reads up to so many groups with colons between them. Four bytes may stand for the last two. -/
def readGroups (isFirst : Bool) : (left : Nat) → List Char → Groups
  | 0, text => ⟨[], false, text⟩
  | left + 1, text =>
    match if isFirst then some text else expect ':' text with
    | none => ⟨[], false, text⟩
    | some start =>
      match if left = 0 then none else readFour start with
      | some ((a, b, c, d), rest) => ⟨[a * 256 + b, c * 256 + d], true, rest⟩
      | none =>
        match readNumber 16 4 0xFFFF start with
        | none => ⟨[], false, text⟩
        | some (group, rest) =>
          let more := readGroups false left rest
          { more with groups := group :: more.groups }

/-- Reads eight groups; two colons stand for one or more groups of zero. -/
def readEight (text : List Char) : Option (List Nat × List Char) :=
  let head := readGroups true 8 text
  if head.groups.length = 8 then some (head.groups, head.rest)
  else if head.endsInFour then none
  else
    match head.rest with
    | ':' :: ':' :: rest =>
      let tail := readGroups true (7 - head.groups.length) rest
      let zeros := List.replicate (8 - head.groups.length - tail.groups.length) 0
      some (head.groups ++ zeros ++ tail.groups, tail.rest)
    | _ => none

/-- Reads an address. -/
def ofText? (text : String) : Option Address :=
  match readFour text.toList with
  | some ((a, b, c, d), rest) => if rest = [] then some (.v4 a b c d) else none
  | none =>
    match readEight text.toList with
    | some (groups, []) => some (.v6 groups)
    | _ => none

/-- The text of four bytes. -/
def four (a b c d : Nat) : String :=
  String.intercalate "." ([a, b, c, d].map fun n => String.ofList (Decimal.natural n))

/-- The text of groups. -/
def colonized (groups : List Nat) : String :=
  String.intercalate ":" (groups.map fun g => String.ofList (Nat.toDigits 16 g))

/-- The groups of zero at the front of some groups. -/
def zeroRun (groups : List Nat) : Nat := (groups.takeWhile (· = 0)).length

/-- Where the first of the longest runs of zeros starts, and how long it is. -/
def longestRun (groups : List Nat) : Nat × Nat :=
  (List.range groups.length).foldl
    (fun best i =>
      let run := zeroRun (groups.drop i)
      if best.2 < run then (i, run) else best)
    (0, 0)

/-- The text of eight groups, the longest run of several zeros left out. -/
def compressed (groups : List Nat) : String :=
  match groups with
  | [0, 0, 0, 0, 0, 0xFFFF, x, y] =>
    "::ffff:" ++ four (x / 256) (x % 256) (y / 256) (y % 256)
  | _ =>
    let (start, run) := longestRun groups
    if 1 < run then colonized (groups.take start) ++ "::" ++ colonized (groups.drop (start + run))
    else colonized groups

/-- The text of an address. -/
def display : Address → String
  | v4 a b c d => four a b c d
  | v6 groups => compressed groups

/-- The text of an address with a port. -/
def withPort (address : Address) (port : UInt16) : String :=
  let number := String.ofList (Decimal.natural port.toNat)
  match address with
  | v4 .. => address.display ++ ":" ++ number
  | v6 _ => "[" ++ address.display ++ "]:" ++ number

end Address

end SoakRig
