/-!
# Text for terminals

A text for a terminal may hold control sequences, which start with an escape character and show
nothing themselves. For a reader that is no terminal they are left out, and so are all control
characters but blanks.
-/

namespace SoakRig.Text.Terminal

/-- Where a text is in a control sequence. -/
inductive Place where
  /-- In none. -/
  | outside
  /-- Right after the escape character. -/
  | escape
  /-- After a sign that one character more ends the sequence. -/
  | escapeEnd
  /-- In a sequence with numbers, which a letter ends. -/
  | numbers
  /-- At the start of a sequence for a device. -/
  | device
  /-- In the numbers of a sequence for a device. -/
  | deviceNumbers
  /-- After the numbers of a sequence for a device. -/
  | deviceEnd
  /-- In a string, which its own terminator ends. -/
  | string
  /-- In a command to the system, which a bell ends. -/
  | command
deriving DecidableEq

/-- The code of the character is from `low` to `high`. -/
def within (low high : Nat) (c : Char) : Bool := low ≤ c.toNat && c.toNat ≤ high

/-- The blanks among the control characters. -/
def isControlBlank (c : Char) : Bool := ['\t', '\n', '\x0c', '\r'].contains c

/-- The character is shown to every reader. -/
def isVisible (c : Char) : Bool := within 0x20 0x7E c || 0x80 ≤ c.toNat || isControlBlank c

/-- The byte that ends a string. -/
def terminator : UInt8 := 0x9C

namespace Place

/-- The place after one more character. -/
def next (p : Place) (c : Char) : Place :=
  if c = '\x1b' then escape
  else if c = '\x18' ∨ c = '\x1a' then outside
  else
    match p with
    | outside => outside
    | escape =>
      if c = '[' then numbers
      else if c = ']' then command
      else if c = 'P' then device
      else if c = 'X' ∨ c = '^' ∨ c = '_' then string
      else if within 0x20 0x2F c then escapeEnd
      else if within 0x30 0x7E c then outside
      else escape
    | escapeEnd => if within 0x30 0x7E c then outside else escapeEnd
    | numbers => if within 0x40 0x7E c then outside else numbers
    | device =>
      if within 0x20 0x2F c then deviceEnd
      else if within 0x30 0x3F c then deviceNumbers
      else if within 0x40 0x7E c then string
      else device
    | deviceNumbers =>
      if within 0x20 0x2F c then deviceEnd
      else if within 0x3C 0x7E c then string
      else deviceNumbers
    | deviceEnd => if within 0x30 0x7E c then string else deviceEnd
    | string => if (String.utf8EncodeChar c).contains terminator then outside else string
    | command => if c = '\x07' then outside else command

/-- The character is shown at the place. -/
def shows (p : Place) (c : Char) : Bool :=
  match p with
  | outside => isVisible c
  | escape => isControlBlank c
  | escapeEnd => isControlBlank c
  | numbers => isControlBlank c
  | _ => false

end Place

/--
What is shown of a text from a place on. A blank that is shown within a sequence interrupts it, and
the sequence goes on at the next control character.
-/
def shownFrom : (showing : Bool) → Place → List Char → List Char
  | _, _, [] => []
  | showing, p, c :: rest =>
    if showing && isVisible c then
      c :: shownFrom true (if c.toNat < 0x80 then p else .outside) rest
    else if p.shows c then c :: shownFrom true (p.next c) rest
    else shownFrom false (p.next c) rest

/-- The text without control sequences. -/
def plain (text : List Char) : List Char := shownFrom false .outside text

/-- The text set off from what is around it. -/
def emphasized (s : String) : String := "\x1b[1m" ++ s ++ "\x1b[0m"

end SoakRig.Text.Terminal
