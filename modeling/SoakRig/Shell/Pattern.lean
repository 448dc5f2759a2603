/-!
# Patterns

Texts with stars, question marks and sets of characters, which stand for many texts. What is quoted
in a pattern stands for itself.
-/

namespace SoakRig.Shell

/-- A character that knows whether it was quoted. -/
abbrev Marked := Char × Bool

namespace Pattern

/-- The characters of a class with a name. -/
def inClass (name : String) (c : Char) : Bool :=
  match name with
  | "alpha" => c.isAlpha
  | "digit" => c.isDigit
  | "alnum" => c.isAlphanum
  | "upper" => c.isUpper
  | "lower" => c.isLower
  | "space" => " \t\n\x0b\x0c\r".toList.contains c
  | "blank" => c = ' ' || c = '\t'
  | "xdigit" => c.isDigit || "abcdefABCDEF".toList.contains c
  | "punct" => '!' ≤ c && c ≤ '~' && !c.isAlphanum
  | _ => false

/-- A piece of a pattern. -/
inductive Piece where
  | one (c : Char)
  | any
  | several
  /-- The characters between some bounds and those of some classes, or all others. -/
  | set (negated : Bool) (ranges : List (Char × Char)) (classes : List String)

/-- The members of a set up to the bracket that closes it, and what follows. -/
def members : (fuel : Nat) → (isFirst : Bool) → List (Char × Char) → List String → List Marked →
    Option (List (Char × Char) × List String × List Marked)
  | 0, _, _, _, _ => none
  | _, _, _, _, [] => none
  | fuel + 1, isFirst, ranges, classes, c :: rest =>
    if c = (']', false) ∧ !isFirst then some (ranges, classes, rest)
    else if c = ('[', false) ∧ rest.head?.map (·.1) = some ':' then
      let name := rest.tail.takeWhile (·.1.isAlpha)
      let after := rest.tail.drop name.length
      if (after.take 2).map (·.1) = [':', ']'] then
        members fuel false ranges (String.ofList (name.map (·.1)) :: classes) (after.drop 2)
      else members fuel false ((c.1, c.1) :: ranges) classes rest
    else
      match rest with
      | ('-', false) :: d :: rest' =>
        if d = (']', false) then members fuel false ((c.1, c.1) :: ranges) classes rest
        else members fuel false ((c.1, d.1) :: ranges) classes rest'
      | _ => members fuel false ((c.1, c.1) :: ranges) classes rest

/-- The pieces of a pattern. -/
def pieces : (fuel : Nat) → List Marked → List Piece
  | 0, _ => []
  | _, [] => []
  | fuel + 1, ('*', false) :: rest => .several :: pieces fuel rest
  | fuel + 1, ('?', false) :: rest => .any :: pieces fuel rest
  | fuel + 1, ('[', false) :: rest =>
    let negated := rest.head? = some ('!', false) || rest.head? = some ('^', false)
    match members (rest.length + 1) true [] [] (if negated then rest.tail else rest) with
    | some (ranges, classes, after) => .set negated ranges classes :: pieces fuel after
    | none => .one '[' :: pieces fuel rest
  | fuel + 1, (c, _) :: rest => .one c :: pieces fuel rest

/-- The pieces of a pattern. -/
def ofMarked (pattern : List Marked) : List Piece := pieces (pattern.length + 1) pattern

/-- The pieces stand for a text. -/
def isMatch : List Piece → List Char → Bool
  | [], text => text.isEmpty
  | .several :: rest, text =>
    isMatch rest text ||
      match text with
      | [] => false
      | _ :: text' => isMatch (.several :: rest) text'
  | _ :: _, [] => false
  | .any :: rest, _ :: text => isMatch rest text
  | .one c :: rest, d :: text => c = d && isMatch rest text
  | .set negated ranges classes :: rest, c :: text =>
    ((ranges.any (fun r => r.1 ≤ c && c ≤ r.2) || classes.any (inClass · c)) != negated) &&
      isMatch rest text
termination_by pattern text => pattern.length + text.length

/-- Something in the pattern does not stand for itself. -/
def isSpecial (pattern : List Marked) : Bool :=
  (ofMarked pattern).any fun
    | .one _ => false
    | _ => true

/-- A text without what the pieces stand for at its start: as little or as much as possible. -/
def dropFront (longest : Bool) (pattern : List Piece) (text : List Char) : List Char :=
  let lengths := (List.range (text.length + 1)).filter fun n => isMatch pattern (text.take n)
  match if longest then lengths.getLast? else lengths.head? with
  | some n => text.drop n
  | none => text

/-- A text without what the pieces stand for at its end: as little or as much as possible. -/
def dropBack (longest : Bool) (pattern : List Piece) (text : List Char) : List Char :=
  let starts := (List.range (text.length + 1)).filter fun n => isMatch pattern (text.drop n)
  match if longest then starts.head? else starts.getLast? with
  | some n => text.take n
  | none => text

end Pattern

end SoakRig.Shell
