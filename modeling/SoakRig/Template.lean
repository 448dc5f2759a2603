import SoakRig.Decimal.Digits
import SoakRig.Text.Search

/-!
# Command templates

Two placeholders stand for the number of the iteration and for the time in milliseconds. Each is
replaced wherever it occurs in a token; everything else stays.
-/

namespace SoakRig.Template

/-- Stands for the number of the iteration. -/
def iterationPlaceholder : List Char := "\x7bi\x7d".toList

/-- Stands for the time. -/
def timePlaceholder : List Char := "\x7bts\x7d".toList

/-- The characters of a token for one iteration at a time. -/
def renderChars (iteration : UInt32) (time : Int) (token : List Char) : List Char :=
  Text.replaceAll timePlaceholder (Decimal.integer time)
    (Text.replaceAll iterationPlaceholder (Decimal.natural iteration.toNat) token)

/-- The token for one iteration at a time. -/
def renderToken (iteration : UInt32) (time : Int) (token : String) : String :=
  String.ofList (renderChars iteration time token.toList)

/-- The tokens for one iteration at a time. -/
def render (tokens : List String) (iteration : UInt32) (time : Int) : List String :=
  tokens.map (renderToken iteration time)

end SoakRig.Template
