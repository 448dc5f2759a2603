import SoakRig.Text.Alphanumeric.Table

/-!
# Letters and numbers

Which characters are letters and which are numbers, in every script.
-/

namespace SoakRig.Text

/-- The character is a letter. -/
def isAlphabetic (c : Char) : Bool := inRanges alphabeticRanges c

/-- The character is a digit or another number. -/
def isNumeric (c : Char) : Bool := inRanges numericRanges c

/-- The character is a letter or a number. -/
def isAlphanumeric (c : Char) : Bool := isAlphabetic c || isNumeric c

end SoakRig.Text
