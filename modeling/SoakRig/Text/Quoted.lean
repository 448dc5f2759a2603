import SoakRig.Text.Quoted.Table

/-!
# Quoted text

A text between double quotes, with escapes for quotes, backslashes and characters without a visible
form of their own; and a list of texts between square brackets.
-/

namespace SoakRig.Text

namespace Quoted

/-- The escape that names a code point by its hexadecimal digits. -/
def byCode (c : Char) : List Char :=
  "\\u\x7b".toList ++ Nat.toDigits 16 c.toNat ++ ['\x7d']

/-- How one character is written between the quotes. -/
def ofChar (c : Char) : List Char :=
  if c = '"' then ['\\', '"']
  else if c = '\\' then ['\\', '\\']
  else if c = '\t' then ['\\', 't']
  else if c = '\n' then ['\\', 'n']
  else if c = '\r' then ['\\', 'r']
  else if c = '\x00' then ['\\', '0']
  else if inRanges hiddenRanges c then byCode c
  else [c]

end Quoted

/-- The text between double quotes. -/
def quoted (s : String) : String :=
  String.ofList ('"' :: (s.toList.flatMap Quoted.ofChar ++ ['"']))

/-- The texts, quoted, between square brackets. -/
def quotedList (texts : List String) : String :=
  "[" ++ String.intercalate ", " (texts.map quoted) ++ "]"

end SoakRig.Text
