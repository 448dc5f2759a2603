import SoakRig.Text.Blank

/-!
# Modes of regular expressions

Flags such as `(?i)` change how a regular expression is read, from there to the end of the group.
Three of them bear on which texts are regular expressions at all. Flags after a minus sign are taken
away.
-/

namespace SoakRig.Regex

/-- How a regular expression is read. -/
structure Mode where
  /-- Small letters and capitals are the same. -/
  caseless : Bool
  /-- It speaks of characters, and otherwise of bytes. -/
  wide : Bool
  /-- Blanks and comments stand for nothing. -/
  spaced : Bool
deriving DecidableEq

namespace Mode

/-- The mode at the start of an expression. -/
def initial : Mode := ⟨false, true, false⟩

/-- The text without the blanks and the comments in front of it. -/
def skipBlanks : (inComment : Bool) → List Char → List Char
  | _, [] => []
  | true, c :: rest => skipBlanks (c ≠ '\n') rest
  | false, c :: rest =>
    if Text.isBlank c then skipBlanks false rest
    else if c = '#' then skipBlanks true rest
    else c :: rest

/-- The text from the next character that stands for something. -/
def skip (m : Mode) (text : List Char) : List Char :=
  if m.spaced then skipBlanks false text else text

/-- One flag of a mode after some flags. -/
def afterFlags (flags : List Char) (flag : Char) (before : Bool) : Bool :=
  if flags.contains flag then (flags.takeWhile (· ≠ '-')).contains flag else before

/-- The mode after some flags. -/
def withFlags (m : Mode) (flags : List Char) : Mode :=
  ⟨afterFlags flags 'i' m.caseless, afterFlags flags 'u' m.wide, afterFlags flags 'x' m.spaced⟩

/-- The letters that are flags, and the minus sign. -/
def flagLetters : List Char := ['i', 'm', 's', 'U', 'u', 'R', 'x', '-']

/-- The letters are flags, each given once, and a minus sign takes some away. -/
def areFlags (flags : List Char) : Bool :=
  flags.all flagLetters.contains && decide flags.Nodup && flags.getLast? ≠ some '-'

end Mode

end SoakRig.Regex
