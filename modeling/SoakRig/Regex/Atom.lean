import SoakRig.Regex.Mode

/-!
# Single characters in regular expressions

What one character stands for, or a backslash with what follows it. Nothing that needs a table of the
character database is allowed: where an expression speaks of characters, that rules out the letters
without regard to case, the classes by letter, and the borders of words. Where it speaks of bytes,
single bytes beyond ASCII are ruled out.
-/

namespace SoakRig.Regex

/-- What one sign of an expression stands for. -/
inductive Atom where
  /-- A character with this code. -/
  | literal (code : Nat)
  /-- Any character of a class. -/
  | kind
  /-- A place between characters. -/
  | place
deriving DecidableEq

namespace Atom

/-- A character that stands for itself; `asByte` if it was given as a byte. -/
def ofCode? (m : Mode) (code : Nat) (asByte : Bool) : Option Atom :=
  if m.wide then
    if m.caseless then none else some (literal code)
  else
    if asByte && 0x80 ≤ code then none else some (literal code)

/-- The value of a hexadecimal digit. -/
def hexDigit? (c : Char) : Option Nat :=
  if c.isDigit then some (c.toNat - 0x30)
  else if 'a' ≤ c ∧ c ≤ 'f' then some (c.toNat - 0x57)
  else if 'A' ≤ c ∧ c ≤ 'F' then some (c.toNat - 0x37)
  else none

/-- Reads some more hexadecimal digits of a code. -/
def hexDigits? (m : Mode) : (count : Nat) → (code : Nat) → List Char → Option (Nat × List Char)
  | 0, code, text => some (code, m.skip text)
  | count + 1, code, text =>
    match m.skip text with
    | [] => none
    | c :: rest =>
      match hexDigit? c with
      | none => none
      | some d => hexDigits? m count (code * 0x10 + d) rest

/-- Reads a character given by some hexadecimal digits. -/
def byCode? (m : Mode) (count : Nat) (text : List Char) : Option (Atom × List Char) :=
  match hexDigits? m count 0 text with
  | none => none
  | some (code, rest) =>
    if code.isValidChar then (ofCode? m code (count = 2)).map (·, rest) else none

/-- The code of the control character with a letter. -/
def control? : Char → Option Nat
  | 'a' => some 0x07
  | 't' => some 0x09
  | 'n' => some 0x0A
  | 'v' => some 0x0B
  | 'f' => some 0x0C
  | 'r' => some 0x0D
  | _ => none

/-- The code of what a backslash makes of a character, if that is one character. -/
def escapedCode? (c : Char) : Option Nat :=
  match control? c with
  | some code => some code
  | none => if c.toNat < 0x80 ∧ !c.isAlphanum ∧ c ≠ '<' ∧ c ≠ '>' then some c.toNat else none

/-- Reads what follows a backslash. -/
def escaped? (m : Mode) : List Char → Option (Atom × List Char)
  | [] => none
  | 'x' :: rest => byCode? m 2 rest
  | 'u' :: rest => byCode? m 4 rest
  | 'U' :: rest => byCode? m 8 rest
  | c :: rest =>
    if c = 'A' ∨ c = 'z' then some (place, rest)
    else if c = 'b' ∨ c = 'B' ∨ c = '<' ∨ c = '>' then
      if m.wide then none else some (place, rest)
    else if c = 'd' ∨ c = 's' ∨ c = 'w' then if m.wide then none else some (kind, rest)
    else
      match escapedCode? c with
      | none => none
      | some code => (ofCode? m code false).map (·, rest)

/-- Reads a character that stands for itself, or a backslash with what follows it. -/
def read? (m : Mode) : List Char → Option (Atom × List Char)
  | [] => none
  | '\\' :: rest => escaped? m rest
  | c :: rest => (ofCode? m c.toNat false).map (·, rest)

end Atom

end SoakRig.Regex
