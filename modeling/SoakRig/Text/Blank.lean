import SoakRig.Text.Ranges

/-!
# White space

The 25 characters of the property `White_Space`, which end an unquoted word on a command line.
-/

namespace SoakRig.Text

/-- The characters with the property `White_Space`. -/
def blankRanges : List Range := [
  (0x09, 0x0D), (0x20, 0x20), (0x85, 0x85), (0xA0, 0xA0), (0x1680, 0x1680), (0x2000, 0x200A),
  (0x2028, 0x2029), (0x202F, 0x202F), (0x205F, 0x205F), (0x3000, 0x3000)]

/-- The character is white space. -/
def isBlank (c : Char) : Bool := inRanges blankRanges c

end SoakRig.Text
