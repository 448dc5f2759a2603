import SoakRig.Binary64.Literal
import SoakRig.Decimal.Fixed
import SoakRig.Shell.Arithmetic

/-!
# Escapes and formats

The text that the shell prints: words with escapes, and values put into a format.
-/

namespace SoakRig.Shell.Printing

def isOctal (c : Char) : Bool := '0' ≤ c && c ≤ '7'

/-- The byte of octal digits. -/
def octal (digits : List Char) : Char :=
  Char.ofNat (digits.foldl (fun n c => n * 8 + (c.toNat - '0'.toNat)) 0 % 256)

/-- The character that a letter behind a backslash stands for. -/
def letter? : Char → Option Char
  | 'a' => some '\x07'
  | 'b' => some '\x08'
  | 'e' => some '\x1b'
  | 'f' => some '\x0c'
  | 'n' => some '\n'
  | 'r' => some '\r'
  | 't' => some '\t'
  | 'v' => some '\x0b'
  | '\\' => some '\\'
  | _ => none

/-- What stands behind a backslash: the characters for it, and how many were read. -/
def escape (text : List Char) : List Char × Nat :=
  match text with
  | [] => (['\\'], 0)
  | c :: _ =>
    match letter? c with
    | some d => ([d], 1)
    | none =>
      if isOctal c then
        let digits := (text.take 3).takeWhile isOctal
        ([octal digits], digits.length)
      else (['\\'], 0)

/-- Text with its escapes resolved; false if an escape ends all output. -/
def unescape : (fuel : Nat) → List Char → List Char × Bool
  | 0, _ => ([], true)
  | _, [] => ([], true)
  | fuel + 1, '\\' :: rest =>
    match rest with
    | 'c' :: _ => ([], false)
    | '0' :: more =>
      let digits := (more.take 3).takeWhile isOctal
      let (out, goes) := unescape fuel (more.drop digits.length)
      (octal digits :: out, goes)
    | _ =>
      let (chars, used) := escape rest
      let (out, goes) := unescape fuel (rest.drop used)
      (chars ++ out, goes)
  | fuel + 1, c :: rest =>
    let (out, goes) := unescape fuel rest
    (c :: out, goes)

/-- What the shell itself prints for some words. -/
def echo (words : List String) : String :=
  let silent := words.head? = some "-n"
  let words := if silent then words.drop 1 else words
  let text := (String.intercalate " " words).toList
  let (out, goes) := unescape (text.length + 1) text
  String.ofList (if goes && !silent then out ++ ['\n'] else out)

/-- What the program of that name prints for some words. -/
def echoProgram (words : List String) : String :=
  let isOption (w : String) : Bool :=
    match w.toList with
    | '-' :: c :: cs => (c :: cs).all "neE".toList.contains
    | _ => false
  let options := words.takeWhile isOption
  let letters := options.flatMap fun w => w.toList.drop 1
  let text := (String.intercalate " " (words.drop options.length)).toList
  let escapes := (letters.filter (· ≠ 'n')).getLast? = some 'e'
  let (out, goes) := if escapes then unescape (text.length + 1) text else (text, true)
  String.ofList (if goes && !letters.contains 'n' then out ++ ['\n'] else out)

/-- How a value is put into a format. -/
structure Directive where
  flags : List Char
  width : Nat
  precision : Option Nat

namespace Directive

/-- The text filled up to the width. -/
def fill (d : Directive) (text : List Char) : List Char :=
  let gap := d.width - text.length
  if d.flags.contains '-' then text ++ List.replicate gap ' '
  else List.replicate gap ' ' ++ text

/-- The digits of a number with what stands in front of them, filled up to the width. -/
def number (d : Directive) (front : List Char) (digits : List Char) : List Char :=
  let digits := List.replicate (d.precision.getD 1 - digits.length) '0' ++ digits
  let gap := d.width - front.length - digits.length
  if d.flags.contains '0' && !d.flags.contains '-' && d.precision.isNone then
    front ++ List.replicate gap '0' ++ digits
  else d.fill (front ++ digits)

/-- The sign of a number. -/
def sign (d : Directive) (negative : Bool) : List Char :=
  if negative then ['-']
  else if d.flags.contains '+' then ['+']
  else if d.flags.contains ' ' then [' ']
  else []

end Directive

/-- What a word is as a number, and what is wrong with that. -/
abbrev Reading (α : Type) := α × Option String

/-- The whole number that a word stands for. -/
def wholeOf (word : String) : Reading Int :=
  match word.toList.dropWhile (· = ' ') with
  | '\'' :: rest => ((rest.head?.map fun c => (c.toNat : Int)).getD 0, none)
  | '"' :: rest => ((rest.head?.map fun c => (c.toNat : Int)).getD 0, none)
  | text =>
    let negative := text.head? = some '-'
    let body := if negative ∨ text.head? = some '+' then text.drop 1 else text
    let (n, rest) := Arithmetic.literal body
    let value := if negative then -n.toInt else n.toInt
    (value,
      if word = "" then none
      else if !(body.head?.map Char.isDigit).getD false then some "expected numeric value"
      else if rest ≠ [] then some "not completely converted"
      else none)

/-- The number that a word stands for. -/
def realOf (word : String) : Reading Binary64 :=
  match Binary64.ofText? (word.toList.dropWhile (· = ' ')) with
  | some x => (x, none)
  | none => (.zero, if word = "" then none else some "expected numeric value")

/-- The complaints that the reading of a word leads to. -/
def complaints {α : Type} (word : Option String) (r : Reading α) : List String :=
  match word, r.2 with
  | some w, some reason => [w ++ ": " ++ reason]
  | _, _ => []

/-- What a format has printed: the text, what was complained about, and whether it goes on. -/
structure Printed where
  out : List Char
  complaints : List String
  goes : Bool
  /-- The format itself is at fault. -/
  broken : Bool

namespace Printed

/-- Text without any trouble. -/
def ofText (out : List Char) : Printed := ⟨out, [], true, false⟩

/-- The format cannot be followed any further. -/
def fault (complaint : String) : Printed := ⟨[], [complaint], false, true⟩

/-- What is printed first, and then the rest. -/
def followedBy (a b : Printed) : Printed :=
  ⟨a.out ++ b.out, a.complaints ++ b.complaints, b.goes, b.broken⟩

end Printed

/-- A number without a sign in some number system, and what stands in front of it if asked for. -/
def unsigned (d : Directive) (word : Option String) (radix : Nat) (mark : String)
    (change : Char → Char) : Printed :=
  let r := wholeOf (word.getD "")
  let n := (r.1 % (twoTo 64 : Nat)).toNat
  let front := if d.flags.contains '#' ∧ n ≠ 0 then mark.toList else []
  { Printed.ofText (d.number front ((Nat.toDigits radix n).map change)) with
    complaints := complaints word r }

/-- Puts one value into a format. -/
def convert (d : Directive) (kind : Char) (word : Option String) : Printed :=
  let signed : Printed :=
    let r := wholeOf (word.getD "")
    { Printed.ofText (d.number (d.sign (r.1 < 0)) (Decimal.natural r.1.natAbs)) with
      complaints := complaints word r }
  match kind with
  | 's' =>
    let text := (word.getD "").toList
    .ofText (d.fill (match d.precision with | some n => text.take n | none => text))
  | 'b' =>
    let text := (word.getD "").toList
    let (out, goes) := unescape (text.length + 1) text
    { Printed.ofText (d.fill out) with goes }
  | 'c' => .ofText (d.fill [(word.getD "").toList.headD '\x00'])
  | 'd' => signed
  | 'i' => signed
  | 'u' => unsigned d word 10 "" id
  | 'o' => unsigned d word 8 "0" id
  | 'x' => unsigned d word 16 "0x" id
  | 'X' => unsigned d word 16 "0X" Char.toUpper
  | 'f' =>
    let r := realOf (word.getD "")
    let digits := (Decimal.fixed (d.precision.getD 6) r.1).toList.filter (· ≠ '-')
    { Printed.ofText ({ d with precision := none }.number (d.sign r.1.negative) digits) with
      complaints := complaints word r }
  | _ => .fault ("%" ++ String.ofList [kind] ++ ": invalid directive")

/-- A number in a directive: digits, or a star for the next word. -/
def measure (text : List Char) (words : List String) : Int × List Char × List String :=
  match text with
  | '*' :: rest => ((wholeOf (words.headD "")).1, rest, words.drop 1)
  | _ =>
    let (digits, rest) := text.span Char.isDigit
    (Nat.ofDigitChars 10 digits 0, rest, words)

/-- What was read behind a percent sign. -/
structure Opened where
  directive : Directive
  kind : Option Char
  rest : List Char
  words : List String

/-- Reads a directive behind a percent sign. -/
def directive (text : List Char) (words : List String) : Opened :=
  let (flags, text) := text.span ("-+ #0".toList.contains ·)
  let (width, text, words) := measure text words
  let flags := if width < 0 then '-' :: flags else flags
  let (precision, text, words) : Option Nat × List Char × List String :=
    match text with
    | '.' :: rest =>
      let (n, rest, words) := measure rest words
      (if n < 0 then none else some n.toNat, rest, words)
    | _ => (none, text, words)
  ⟨⟨flags, width.natAbs, precision⟩, text.head?, text.drop 1, words⟩

/-- Prints a format once, taking words from the front; gives the words that are left. -/
def once : (fuel : Nat) → List Char → List String → Printed × List String
  | 0, _, words => (.ofText [], words)
  | _, [], words => (.ofText [], words)
  | fuel + 1, '\\' :: rest, words =>
    let (chars, used) := escape rest
    let (more, left) := once fuel (rest.drop used) words
    ((Printed.ofText chars).followedBy more, left)
  | fuel + 1, '%' :: '%' :: rest, words =>
    let (more, left) := once fuel rest words
    ((Printed.ofText ['%']).followedBy more, left)
  | fuel + 1, '%' :: rest, words =>
    let o := directive rest words
    match o.kind with
    | none => (.fault "missing format character", words)
    | some kind =>
      let first := convert o.directive kind o.words.head?
      if first.goes then
        let (more, left) := once fuel o.rest (o.words.drop 1)
        (first.followedBy more, left)
      else (first, o.words.drop 1)
  | fuel + 1, c :: rest, words =>
    let (more, left) := once fuel rest words
    ((Printed.ofText [c]).followedBy more, left)

/-- Prints a format again and again while it takes words. -/
def format : (fuel : Nat) → List Char → List String → Printed
  | 0, _, _ => .ofText []
  | fuel + 1, text, words =>
    let (printed, left) := once (text.length + 1) text words
    if printed.goes && left ≠ [] && left.length < words.length then
      printed.followedBy (format fuel text left)
    else printed

/-- What a format and some words print. -/
def printf (text : String) (words : List String) : Printed :=
  format (words.length + 1) text.toList words

end SoakRig.Shell.Printing
