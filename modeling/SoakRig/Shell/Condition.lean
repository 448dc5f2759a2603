import SoakRig.Shell.Session

/-!
# Conditions

The conditions on texts, numbers and files that a shell can test.
-/

namespace SoakRig.Shell.Condition

/-- The number that a text stands for, with blanks around it. -/
def number? (text : String) : Option Int :=
  let chars := (text.toList.dropWhile (· = ' ')).reverse.dropWhile (· = ' ') |>.reverse
  match chars with
  | '-' :: digits => (Decimal.natural? digits).map fun n => -(n : Int)
  | '+' :: digits => (Decimal.natural? digits).map Int.ofNat
  | digits => (Decimal.natural? digits).map Int.ofNat

/-- A condition on the value of a test, or a complaint. -/
abbrev Verdict := Except String Bool

/-- The conditions on two texts. -/
def binaryOps : List String :=
  ["=", "!=", "<", ">", "-eq", "-ne", "-ge", "-gt", "-le", "-lt", "-nt", "-ot", "-ef"]

/-- The conditions on one text. -/
def unaryOps : List String := [
  "-r", "-w", "-x", "-e", "-f", "-d", "-c", "-b", "-p", "-u", "-g", "-k", "-s", "-t", "-z", "-n",
  "-h", "-O", "-G", "-L", "-S"]

/-- Compares two numbers. -/
def compare (a b : String) (p : Int → Int → Bool) : Verdict :=
  match number? a, number? b with
  | some m, some n => .ok (p m n)
  | none, _ => .error ("Illegal number: " ++ a)
  | _, none => .error ("Illegal number: " ++ b)

/-- The place that a path leads to, if something stands there. -/
def place? (s : Session) (path : String) : Option Location :=
  (s.files.resolve (Session.path path)).toOption

/-- What stands at the place of a path. -/
def node? (s : Session) (path : String) : Option Node := (place? s path).bind s.files.node?

/-- Two paths lead to one directory or file. -/
def same (s : Session) (a b : String) : Bool :=
  match place? s a, place? s b with
  | some l, some l' =>
    l = l' ||
      match s.files.node? l, s.files.node? l' with
      | some (.file n), some (.file m) => n = m
      | _, _ => false
  | _, _ => false

/-- A path is that of a link. -/
def isLink (s : Session) (path : String) : Bool :=
  match s.files.entry (Session.path path) with
  | .ok (some (d, name)) =>
    match s.files.node? (d ++ [name]) with
    | some (.link _) => true
    | _ => false
  | _ => false

/-- A condition on two texts. -/
def binary (s : Session) (op : String) (a b : String) : Verdict :=
  match op with
  | "=" => .ok (a == b)
  | "!=" => .ok (a != b)
  | "<" => .ok (decide (a < b))
  | ">" => .ok (decide (b < a))
  | "-eq" => compare a b fun m n => m == n
  | "-ne" => compare a b fun m n => m != n
  | "-lt" => compare a b fun m n => decide (m < n)
  | "-le" => compare a b fun m n => decide (m ≤ n)
  | "-gt" => compare a b fun m n => decide (n < m)
  | "-ge" => compare a b fun m n => decide (n ≤ m)
  | "-ef" => .ok (same s a b)
  | _ => .ok false

/-- A condition on one text. -/
def unary (s : Session) (op : String) (a : String) : Bool :=
  match op with
  | "-n" => a ≠ ""
  | "-z" => a = ""
  | "-f" =>
    match node? s a with
    | some (.file _) => true
    | some (.program _) => true
    | _ => false
  | "-d" => node? s a = some .directory
  | "-c" => node? s a = some .sink
  | "-s" =>
    match node? s a with
    | some (.file number) => s.files.content number ≠ []
    | some (.program _) => true
    | some .directory => true
    | _ => false
  | "-x" =>
    match node? s a with
    | some (.program _) => true
    | some .directory => true
    | _ => false
  | "-e" => (node? s a).isSome
  | "-r" => (node? s a).isSome
  | "-w" => (node? s a).isSome
  | "-O" => (node? s a).isSome
  | "-G" => (node? s a).isSome
  | "-h" => isLink s a
  | "-L" => isLink s a
  | _ => false

/-- What a word is at its place: the name of a condition, another sign, or just a text. -/
inductive Role where
  | ending
  | unary
  | binary
  | sign (text : String)
  | text
deriving DecidableEq

/-- What the first of some words is. A condition on one text is just a text if nothing follows it, or
if a condition on two texts does. -/
def role : List String → Role
  | [] => .ending
  | w :: rest =>
    if binaryOps.contains w then .binary
    else if unaryOps.contains w then
      match rest with
      | [] => .text
      | [_] => .unary
      | a :: _ => if binaryOps.contains a then .text else .unary
    else if w = "(" ∧ rest = [] then .text
    else if ["!", "-a", "-o", "(", ")"].contains w then .sign w
    else .text

/-- What has been found out, and the words from the last one that was looked at. -/
abbrev Found := Except String (Bool × List String)

mutual

/-- Alternatives. -/
def either (fuel : Nat) (s : Session) (words : List String) : Found :=
  match fuel with
  | 0 => .ok (false, words)
  | fuel + 1 => do
    let (a, last) ← both fuel s words
    if role last.tail = .sign "-o" then
      let (b, last) ← either fuel s (last.drop 2)
      return (a || b, last)
    else return (a, last)

/-- Conditions that have to hold together. -/
def both (fuel : Nat) (s : Session) (words : List String) : Found :=
  match fuel with
  | 0 => .ok (false, words)
  | fuel + 1 => do
    let (a, last) ← negated fuel s words
    if role last.tail = .sign "-a" then
      let (b, last) ← both fuel s (last.drop 2)
      return (a && b, last)
    else return (a, last)

/-- A condition, or the opposite of one. -/
def negated (fuel : Nat) (s : Session) (words : List String) : Found :=
  match fuel with
  | 0 => .ok (false, words)
  | fuel + 1 =>
    if role words = .sign "!" then do
      if words.tail.isEmpty then return (true, words)
      let (a, last) ← negated fuel s words.tail
      return (!a, last)
    else single fuel s words

/-- One condition. -/
def single (fuel : Nat) (s : Session) (words : List String) : Found :=
  match fuel with
  | 0 => .ok (false, words)
  | fuel + 1 =>
    match words with
    | [] => .ok (false, [])
    | w :: rest =>
      match role words, rest with
      | .sign "(", rest =>
        if role rest = .sign ")" then .ok (false, rest)
        else do
          let (a, last) ← either fuel s rest
          if role last.tail = .sign ")" then return (a, last.tail)
          else throw "closing paren expected"
      | .unary, a :: _ => .ok (unary s w a, rest)
      | _, op :: operands =>
        if role rest = .binary then
          match operands with
          | [] => .error (op ++ ": argument expected")
          | b :: _ => (binary s op w b).map fun v => (v, operands)
        else .ok (w ≠ "", words)
      | _, [] => .ok (w ≠ "", words)

end

/-- Tests all of some words. -/
def whole (s : Session) (words : List String) : Verdict :=
  match either (8 * words.length + 8) s words with
  | .error e => .error e
  | .ok (_, w :: _ :: _) => .error (if w = "" then "unexpected operator" else w ++ ": unexpected operator")
  | .ok (a, _) => .ok a

/-- Tests a condition. Up to four words are read by their number. -/
def test (s : Session) : (words : List String) → Verdict
  | [] => .ok false
  | ["!", a, b] =>
    if binaryOps.contains a then binary s a "!" b else (test s [a, b]).map not
  | [a, op, b] =>
    if binaryOps.contains op then binary s op a b
    else if a = "(" ∧ b = ")" then whole s [op]
    else whole s [a, op, b]
  | ["!", a, b, c] => (test s [a, b, c]).map not
  | ["(", a, b, ")"] => whole s [a, b]
  | words => whole s words

end SoakRig.Shell.Condition
