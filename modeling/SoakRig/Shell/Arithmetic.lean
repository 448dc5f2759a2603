import SoakRig.Decimal.Digits
import SoakRig.Powers

/-!
# Shell arithmetic

Expressions over words of 64 bits with names, brackets, assignments and the usual operators. What is
not needed for the value of an expression is not looked at.
-/

namespace SoakRig.Shell.Arithmetic

/-- Why an expression has no value. -/
inductive Fault where
  | noOperand
  | noBracket
  | noColon
  | surplus
  | divisionByZero
  /-- A name stands for a text that is no number. -/
  | noNumber (text : String)
deriving DecidableEq

namespace Fault

/-- What is said about an expression. -/
def message (expression : String) : Fault → String
  | noOperand => "arithmetic expression: expecting primary: \"" ++ expression ++ "\""
  | noBracket => "arithmetic expression: expecting ')': \"" ++ expression ++ "\""
  | noColon => "arithmetic expression: expecting ':': \"" ++ expression ++ "\""
  | surplus => "arithmetic expression: expecting EOF: \"" ++ expression ++ "\""
  | divisionByZero => "arithmetic expression: division by zero: \"" ++ expression ++ "\""
  | noNumber text => "Illegal number: " ++ text

end Fault

/-- What an expression is read as first. -/
inductive Item where
  | number (n : Int64)
  | name (text : String)
  | sign (text : String)
deriving DecidableEq

/-- An expression. -/
inductive Expr where
  | number (n : Int64)
  | name (text : String)
  | unary (sign : String) (operand : Expr)
  | binary (sign : String) (left right : Expr)
  | either (condition consequent alternative : Expr)
  /-- Sets a name, perhaps to what a sign makes of its old value and the new one. -/
  | assign (name : String) (sign : Option String) (value : Expr)

def isNameStart (c : Char) : Bool := c.isAlpha || c = '_'

def isNameChar (c : Char) : Bool := c.isAlphanum || c = '_'

/-- The value of a digit. -/
def digit? (radix : Nat) (c : Char) : Option Nat :=
  let value :=
    if c.isDigit then some (c.toNat - '0'.toNat)
    else if 'a' ≤ c ∧ c ≤ 'f' then some (c.toNat - 'a'.toNat + 10)
    else if 'A' ≤ c ∧ c ≤ 'F' then some (c.toNat - 'A'.toNat + 10)
    else none
  value.filter (· < radix)

/-- The greatest number. -/
def greatest : Nat := twoTo 63 - 1

/-- The number at the front of a text in a number system, and the text after it. -/
def ofDigits (radix : Nat) (text : List Char) : Int64 × List Char :=
  let (digits, rest) := text.span fun c => (digit? radix c).isSome
  let n := (digits.filterMap (digit? radix)).foldl (fun n d => n * radix + d) 0
  (Int64.ofNat (min n greatest), rest)

/-- The number at the front of a text, and the text after it. -/
def literal (text : List Char) : Int64 × List Char :=
  match text with
  | '0' :: 'x' :: c :: rest =>
    if (digit? 16 c).isSome then ofDigits 16 (c :: rest) else (0, 'x' :: c :: rest)
  | '0' :: 'X' :: c :: rest =>
    if (digit? 16 c).isSome then ofDigits 16 (c :: rest) else (0, 'X' :: c :: rest)
  | '0' :: _ => ofDigits 8 text
  | _ => ofDigits 10 text

/-- The number that a whole text stands for. -/
def number? (text : String) : Option Int64 :=
  let chars := text.toList.dropWhile (· = ' ')
  let (negative, digits) : Bool × List Char :=
    match chars with
    | '-' :: digits => (true, digits)
    | '+' :: digits => (false, digits)
    | digits => (false, digits)
  match digits with
  | [] => if chars.isEmpty then some 0 else none
  | c :: _ =>
    match literal digits with
    | (n, []) => if c.isDigit then some (if negative then -n else n) else none
    | _ => none

/-- The signs of more than one character, the longest first. -/
def longSigns : List String := [
  "<<=", ">>=", "==", "!=", "<=", ">=", "&&", "||", "<<", ">>", "+=", "-=", "*=", "/=", "%=", "&=",
  "^=", "|="]

/-- The sign at the front of a text. -/
def signAt (text : List Char) : String :=
  match longSigns.find? fun sign => sign.toList.isPrefixOf text with
  | some sign => sign
  | none => String.ofList (text.take 1)

/-- Reads an expression. -/
def items : (fuel : Nat) → List Char → List Item
  | 0, _ => []
  | _, [] => []
  | fuel + 1, c :: rest =>
    if c = ' ' ∨ c = '\t' ∨ c = '\n' then items fuel rest
    else if c.isDigit then
      let (n, rest) := literal (c :: rest)
      .number n :: items fuel rest
    else if isNameStart c then
      let (name, rest) := (c :: rest).span isNameChar
      .name (String.ofList name) :: items fuel rest
    else
      let sign := signAt (c :: rest)
      .sign sign :: items fuel (rest.drop (sign.length - 1))

/-- How tightly a sign binds. -/
def strength? : String → Option Nat
  | "||" => some 1
  | "&&" => some 2
  | "|" => some 3
  | "^" => some 4
  | "&" => some 5
  | "==" => some 6
  | "!=" => some 6
  | "<" => some 7
  | "<=" => some 7
  | ">" => some 7
  | ">=" => some 7
  | "<<" => some 8
  | ">>" => some 8
  | "+" => some 9
  | "-" => some 9
  | "*" => some 10
  | "/" => some 10
  | "%" => some 10
  | _ => none

/-- The operation of a sign that assigns, if it is one; a plain equals sign has none. -/
def assigning? : String → Option (Option String)
  | "=" => some none
  | "+=" => some (some "+")
  | "-=" => some (some "-")
  | "*=" => some (some "*")
  | "/=" => some (some "/")
  | "%=" => some (some "%")
  | "&=" => some (some "&")
  | "^=" => some (some "^")
  | "|=" => some (some "|")
  | "<<=" => some (some "<<")
  | ">>=" => some (some ">>")
  | _ => none

/-- Something that was read, and the items after it. -/
abbrev Rest := Except Fault (Expr × List Item)

mutual

/-- Reads an operand. -/
def operand (fuel : Nat) (its : List Item) : Rest :=
  match fuel with
  | 0 => .error .noOperand
  | fuel + 1 =>
    match its with
    | .number n :: rest => .ok (.number n, rest)
    | .name text :: rest => .ok (.name text, rest)
    | .sign "(" :: rest => do
      let (e, rest) ← assignment fuel rest
      match rest with
      | .sign ")" :: rest => return (e, rest)
      | _ => throw .noBracket
    | .sign text :: rest =>
      if ["-", "+", "!", "~"].contains text then do
        let (e, rest) ← operand fuel rest
        return (.unary text e, rest)
      else .error .noOperand
    | [] => .error .noOperand

/-- Reads operands and signs that bind more tightly than some strength. -/
def expression (fuel least : Nat) (its : List Item) : Rest :=
  match fuel with
  | 0 => .error .noOperand
  | fuel + 1 => do
    let (a, rest) ← operand fuel its
    continued fuel least a rest

/-- Goes on behind an expression. -/
def continued (fuel least : Nat) (a : Expr) (its : List Item) : Rest :=
  match fuel with
  | 0 => .error .noOperand
  | fuel + 1 =>
    match its with
    | .sign text :: rest =>
      match strength? text with
      | none => .ok (a, its)
      | some strength =>
        if strength ≤ least then .ok (a, its)
        else do
          let (b, rest) ← expression fuel strength rest
          continued fuel least (.binary text a b) rest
    | its => .ok (a, its)

/-- Reads an assignment, a choice or less. -/
def assignment (fuel : Nat) (its : List Item) : Rest :=
  match fuel with
  | 0 => .error .noOperand
  | fuel + 1 =>
    match its with
    | .name name :: .sign text :: rest =>
      match assigning? text with
      | some sign => do
        let (e, rest) ← assignment fuel rest
        return (.assign name sign e, rest)
      | none => choice fuel its
    | _ => choice fuel its

/-- Reads a choice or less. -/
def choice (fuel : Nat) (its : List Item) : Rest :=
  match fuel with
  | 0 => .error .noOperand
  | fuel + 1 => do
    let (condition, rest) ← expression fuel 0 its
    match rest with
    | .sign "?" :: rest =>
      let (consequent, rest) ← assignment fuel rest
      match rest with
      | .sign ":" :: rest =>
        let (alternative, rest) ← choice fuel rest
        return (.either condition consequent alternative, rest)
      | _ => throw .noColon
    | _ => return (condition, rest)

end

/-- Reads an expression from end to end. -/
def parse (text : String) : Except Fault Expr :=
  let its := items (text.length + 1) text.toList
  if its = [] then .ok (.number 0)
  else
    match assignment (6 * its.length + 6) its with
    | .ok (e, []) => .ok e
    | .ok _ => .error .surplus
    | .error f => .error f

/-- One if it holds. -/
def truth (b : Bool) : Int64 := if b then 1 else 0

/-- The value of a sign in front of a value. -/
def applyUnary (sign : String) (a : Int64) : Int64 :=
  match sign with
  | "-" => -a
  | "!" => truth (a == 0)
  | "~" => ~~~a
  | _ => a

/-- The value of a sign between two values. -/
def combine (sign : String) (a b : Int64) : Except Fault Int64 :=
  match sign with
  | "==" => .ok (truth (a == b))
  | "!=" => .ok (truth (a != b))
  | "<" => .ok (truth (decide (a < b)))
  | "<=" => .ok (truth (decide (a ≤ b)))
  | ">" => .ok (truth (decide (b < a)))
  | ">=" => .ok (truth (decide (b ≤ a)))
  | "<<" => .ok (a <<< b)
  | ">>" => .ok (a >>> b)
  | "+" => .ok (a + b)
  | "-" => .ok (a - b)
  | "*" => .ok (a * b)
  | "/" => if b = 0 then .error .divisionByZero else .ok (a / b)
  | "%" => if b = 0 then .error .divisionByZero else .ok (a % b)
  | "|" => .ok (a ||| b)
  | "^" => .ok (a ^^^ b)
  | _ => .ok (a &&& b)

/-- The names that were set, newest first. -/
abbrev Settings := List (String × Int64)

/-- The value of an expression, given the texts of names, and the names that are set by it. -/
def value (textOf : String → Option String) : Expr → Settings → Except Fault (Int64 × Settings)
  | .number n, set => .ok (n, set)
  | .name x, set => do return (← look x set, set)
  | .unary sign e, set => do
    let (a, set) ← value textOf e set
    return (applyUnary sign a, set)
  | .binary sign e f, set => do
    let (a, set) ← value textOf e set
    if sign = "&&" then
      if a = 0 then return (0, set)
      else
        let (b, set) ← value textOf f set
        return (truth (b != 0), set)
    else if sign = "||" then
      if a ≠ 0 then return (1, set)
      else
        let (b, set) ← value textOf f set
        return (truth (b != 0), set)
    else
      let (b, set) ← value textOf f set
      return (← combine sign a b, set)
  | .either c e f, set => do
    let (a, set) ← value textOf c set
    if a ≠ 0 then value textOf e set else value textOf f set
  | .assign x sign e, set => do
    let (b, set) ← value textOf e set
    let n ←
      match sign with
      | none => pure b
      | some sign => combine sign (← look x set) b
    return (n, (x, n) :: set)
where
  /-- The value of a name. -/
  look (x : String) (set : Settings) : Except Fault Int64 :=
    match set.find? (·.1 = x) with
    | some (_, n) => .ok n
    | none =>
      match textOf x with
      | none => .ok 0
      | some text =>
        match number? text with
        | some n => .ok n
        | none => .error (.noNumber text)

/-- The value of an expression, and the names that it sets in order. -/
def evaluate (textOf : String → Option String) (text : String) :
    Except Fault (Int64 × Settings) := do
  let (n, set) ← value textOf (← parse text) []
  return (n, set.reverse)

/-- A number as text. -/
def render (n : Int64) : String := String.ofList (Decimal.integer n.toInt)

end SoakRig.Shell.Arithmetic
