import SoakRig.Regex.Atom
import SoakRig.Regex.Depth

/-!
# Sets of characters in regular expressions

What stands between square brackets: characters, ranges, classes, further sets, and the signs `&&`,
`--` and `~~` between two halves. Dashes at the start stand for themselves, and so does a closing
bracket that comes first.
-/

namespace SoakRig.Regex

/-- A set that is being read. -/
structure OpenSet where
  /-- The depth of what stands before the last sign between two halves, if there is one. -/
  left : Option Nat
  items : Bundle
  /-- Nothing but dashes was read. -/
  fresh : Bool

namespace OpenSet

/-- A set of which nothing was read. -/
def start : OpenSet := ⟨none, .empty, true⟩

/-- The set with one more item of some depth. -/
def add (s : OpenSet) (depth : Nat) : OpenSet := { s with items := s.items.add depth, fresh := false }

/-- The set with one more dash at its start. -/
def addDash (s : OpenSet) : OpenSet := { s with items := s.items.add 0 }

/-- The depth of what was read. -/
def depth (s : OpenSet) : Nat :=
  match s.left with
  | none => s.items.whole
  | some left => max left s.items.whole + 1

/-- The set after a sign between two halves. -/
def halved (s : OpenSet) : OpenSet := ⟨some s.depth, .empty, false⟩

end OpenSet

namespace CharSet

/-- The names of classes. -/
def classNames : List String :=
  ["alnum", "alpha", "ascii", "blank", "cntrl", "digit", "graph", "lower", "print", "punct",
    "space", "upper", "word", "xdigit"]

/-- Reads a class by name after its bracket: whether it is negated, and what follows. -/
def namedClass? (text : List Char) : Option (Bool × List Char) :=
  match text with
  | ':' :: rest =>
    let negated := rest.head? = some '^'
    let named := if negated then rest.tail else rest
    let (name, after) := named.span (· ≠ ':')
    match after with
    | ':' :: ']' :: rest =>
      if classNames.contains (String.ofList name) then some (negated, rest) else none
    | _ => none
  | _ => none

/-- A class by name is allowed. Its negation holds bytes beyond ASCII. -/
def allowsClass (m : Mode) (negated : Bool) : Bool := if m.wide then !m.caseless else !negated

/-- What follows the bracket of a set and its sign of negation, which needs characters. -/
def opened? (m : Mode) (text : List Char) : Option (List Char) :=
  match m.skip text with
  | '^' :: rest => if m.wide then some (m.skip rest) else none
  | rest => some rest

/-- The character after a dash, beyond blanks and the sign of a comment among them. -/
def peek? (m : Mode) (text : List Char) : Option Char :=
  if m.spaced then
    match text.dropWhile Text.isBlank with
    | '#' :: rest => (rest.dropWhile Text.isBlank).head?
    | rest => rest.head?
  else text.head?

/-- The dash before the text makes a range. -/
def makesRange (m : Mode) (text : List Char) : Bool :=
  peek? m text ≠ some ']' && peek? m text ≠ some '-'

/-- An atom may be an item: a place is none, and bytes are ASCII. -/
def isItem (m : Mode) : Atom → Bool
  | .literal code => m.wide || code < 0x80
  | .kind => true
  | .place => false

/-- Two atoms are the ends of a range. -/
def isRange (m : Mode) : Atom → Atom → Bool
  | .literal first, .literal last => first ≤ last && (m.wide || last < 0x80)
  | _, _ => false

/-- Reads an item: a character, a class by letter or a range. -/
def item? (m : Mode) (text : List Char) : Option (List Char) :=
  match Atom.read? m text with
  | none => none
  | some (first, rest) =>
    match m.skip rest with
    | [] => none
    | c :: rest =>
      if c = '-' ∧ makesRange m rest then
        match Atom.read? m (m.skip rest) with
        | none => none
        | some (last, rest) => if isRange m first last then some rest else none
      else if isItem m first then some (c :: rest)
      else none

/-- The character and the next one are a sign between two halves. -/
def isSign (c : Char) (rest : List Char) : Bool :=
  ['&', '-', '~'].contains c && rest.head? = some c

/-- Reads the rest of a set inside others: its depth and what follows it. -/
def readFrom? (m : Mode) :
    (fuel : Nat) → (outer : List OpenSet) → OpenSet → List Char → Option (Nat × List Char)
  | 0, _, _, _ => none
  | fuel + 1, outer, s, text =>
    match m.skip text with
    | [] => none
    | c :: rest =>
      if s.fresh ∧ (c = '-' ∨ (c = ']' ∧ s.items.count = 0)) then
        match Atom.ofCode? m c.toNat false with
        | none => none
        | some _ => readFrom? m fuel outer (if c = '-' then s.addDash else s.add 0) rest
      else if c = '[' then
        match namedClass? rest with
        | some (negated, rest) =>
          if allowsClass m negated then readFrom? m fuel outer (s.add 0) rest else none
        | none =>
          match opened? m rest with
          | none => none
          | some rest => readFrom? m fuel (s :: outer) .start rest
      else if c = ']' then
        match outer with
        | [] => some (s.depth + 1, rest)
        | around :: outer => readFrom? m fuel outer (around.add (s.depth + 1)) rest
      else if isSign c rest then readFrom? m fuel outer s.halved (rest.drop 1)
      else
        match item? m (c :: rest) with
        | none => none
        | some rest => readFrom? m fuel outer (s.add 0) rest

/-- Reads a set after its bracket: its depth and what follows it. -/
def read? (m : Mode) (text : List Char) : Option (Nat × List Char) :=
  match opened? m text with
  | none => none
  | some rest => readFrom? m (rest.length + 1) [] .start rest

end CharSet

end SoakRig.Regex
