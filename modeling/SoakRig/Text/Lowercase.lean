import SoakRig.Text.Lowercase.Table

/-!
# Lower case

The full lower-case mapping of a text. Every character maps by itself, except that a capital I with
a dot becomes two characters and a capital sigma at the end of a word becomes a final sigma.
-/

namespace SoakRig.Text

namespace Lowercase

/-- The shift that a run of the table gives to a code point, if the run holds it. -/
def Run.shift? (r : Run) (n : Nat) : Option Int :=
  if r.first ≤ n ∧ n ≤ r.last ∧ (n - r.first) % r.step = 0 then some r.shift else none

/-- The lower-case form of one character, looked at without its neighbours. -/
def ofChar (c : Char) : Char :=
  match runs.findSome? (·.shift? c.toNat) with
  | some shift => Char.ofNat (c.toNat + shift).toNat
  | none => c

/-- The first character that is not skipped is cased. -/
def leadsToCased (neighbours : List Char) : Bool :=
  match neighbours.dropWhile (inRanges ignorableRanges) with
  | [] => false
  | c :: _ => inRanges casedRanges c

/-- Lower case of the text that follows `before` (given nearest first). -/
def go : List Char → List Char → List Char → List Char
  | _, [], done => done.reverse
  | before, c :: rest, done =>
    let mapped :=
      if c = 'Σ' then
        if leadsToCased before && !leadsToCased rest then ['ς'] else ['σ']
      else if c = 'İ' then ['i', '\u0307']
      else [ofChar c]
    go (c :: before) rest (mapped.reverse ++ done)

end Lowercase

/-- The text in lower case. -/
def lowercase (s : String) : String := String.ofList (Lowercase.go [] s.toList [])

end SoakRig.Text
