import SoakRig.Shell.Arithmetic
import SoakRig.Shell.Lexeme
import SoakRig.Shell.Pattern
import SoakRig.Shell.Session

/-!
# Expansion of words

The fields that a word becomes: parameters, outputs and numbers are put in, what stands outside
quotes is split at separators, and names of files replace patterns that match some.
-/

namespace SoakRig.Shell

/-- Runs a script for its output. -/
abbrev Substitute := String → Session → String × Session

namespace Expansion

/-- The number that the shell is known by among processes. -/
def processNumber : String := "4711"

/-- A number as text. -/
def decimal (n : Nat) : String := String.ofList (Decimal.natural n)

/-- The characters that separate fields. -/
def separators (s : Session) : List Char :=
  match s.valueOf? "IFS" with
  | some text => text.toList
  | none => [' ', '\t', '\n']

/-- What stands between the arguments where they are one text. -/
def glue (s : Session) : String := String.ofList ((separators s).take 1)

/-- The letters of the options that are turned on. -/
def optionLetters (o : Options) : String :=
  (if o.demanding then "u" else "") ++ (if o.traced then "x" else "") ++
    (if o.idle then "n" else "") ++ (if o.strict then "e" else "")

/-- The value of a parameter, if it has one. -/
def parameter? (s : Session) (name : String) : Option String :=
  match name with
  | "@" => some (String.intercalate " " s.args)
  | "*" => some (String.intercalate (glue s) s.args)
  | "#" => some (decimal s.args.length)
  | "?" => some (decimal s.status)
  | "$" => some processNumber
  | "!" => if s.lastJob = 0 then some "" else some (decimal s.lastJob)
  | "-" => some (optionLetters s.options)
  | "0" => some s.name
  | _ =>
    match Decimal.natural? name.toList with
    | some n => if n = 0 then some s.name else s.args[n - 1]?
    | none =>
      match s.valueOf? name with
      | some value => some value
      | none => if name = "IFS" then some " \t\n" else none

/-- The value of a parameter, which may have to have one. -/
def parameter (s : Session) (name : String) : String × Session :=
  match parameter? s name with
  | some value => (value, s)
  | none =>
    if s.options.demanding then ("", s.abort (name ++ ": parameter not set")) else ("", s)

/-- Characters that know whether they were quoted. -/
def marked (isQuoted : Bool) (text : String) : List Marked := text.toList.map fun c => (c, isQuoted)

/-- The text without marks. -/
def unmarked (text : List Marked) : String := String.ofList (text.map (·.1))

/-- The part stands between quotes, if that makes a difference. -/
def isQuoted : Part → Bool
  | .plain _ => false
  | .quoted _ => true
  | .home => true
  | .parameter _ q => q
  | .length _ q => q
  | .withFallback _ _ _ _ q => q
  | .trimmed _ _ _ _ q => q
  | .output _ q => q
  | .number _ q => q
  | .malformed => false

mutual

/-- The text of a part. -/
def text (substitute : Substitute) (fuel : Nat) (part : Part) (s : Session) :
    List Marked × Session :=
  match fuel with
  | 0 => ([], s)
  | fuel + 1 =>
    let isQuoted := isQuoted part
    match part with
    | .plain t => (marked isQuoted t, s)
    | .quoted t => (marked isQuoted t, s)
    | .home => (marked isQuoted ((s.valueOf? "HOME").getD "~"), s)
    | .parameter name _ =>
      let (t, s) := parameter s name
      (marked isQuoted t, s)
    | .length name _ =>
      let (t, s) := parameter s name
      (marked isQuoted (decimal t.length), s)
    | .output script _ =>
      let (t, s) := substitute script s
      (marked isQuoted t, s)
    | .number expression _ =>
      let (e, s) := texts substitute fuel (Lexeme.partsOf expression) s
      match Arithmetic.evaluate (s.valueOf? ·) (unmarked e) with
      | .ok (n, set) =>
        (marked isQuoted (Arithmetic.render n),
          set.foldl (fun s (name, n) => s.setVariable name (Arithmetic.render n)) s)
      | .error fault => ([], s.abort (fault.message (unmarked e)))
    | .trimmed name atEnd longest pattern q =>
      let (t, s) := parameter s name
      let (p, s) := texts substitute fuel (Lexeme.wordOf pattern) s
      let drop := if atEnd then Pattern.dropBack else Pattern.dropFront
      (marked q (String.ofList (drop longest (Pattern.ofMarked p) t.toList)), s)
    | .malformed => ([], s.abort "Bad substitution")
    | .withFallback name kind emptyCounts word q =>
      let value := parameter? s name
      let present := value.isSome && !(emptyCounts && value = some "")
      let parts := if q then Lexeme.partsOf word else Lexeme.wordOf word
      match kind with
      | .use =>
        if present then (marked q (value.getD ""), s) else texts substitute fuel parts s
      | .replace => if present then texts substitute fuel parts s else ([], s)
      | .assign =>
        if present then (marked q (value.getD ""), s)
        else
          let (t, s) := texts substitute fuel parts s
          (marked q (unmarked t), s.setVariable name (unmarked t))
      | .demand =>
        if present then (marked q (value.getD ""), s)
        else
          let (t, s) := texts substitute fuel parts s
          let reason := if t = [] then "parameter not set" else unmarked t
          ([], s.abort (name ++ ": " ++ reason))

/-- The text of parts one after another. -/
def texts (substitute : Substitute) (fuel : Nat) (parts : List Part) (s : Session) :
    List Marked × Session :=
  match fuel with
  | 0 => ([], s)
  | fuel + 1 =>
    match parts with
    | [] => ([], s)
    | part :: parts =>
      if !s.running then ([], s)
      else
        let (t, s) := text substitute fuel part s
        let (u, s) := texts substitute fuel parts s
        (t ++ u, s)

end

/-- Fields while they are made. Newest come first. -/
structure Fields where
  done : List (List Marked)
  current : Option (List Marked)
  /-- Nothing but blanks has come since the last field. -/
  afterBlank : Bool

namespace Fields

def empty : Fields := ⟨[], none, false⟩

/-- Adds characters to the current field. -/
def add (f : Fields) (t : List Marked) : Fields :=
  { f with current := some (t.reverse ++ f.current.getD []), afterBlank := false }

/-- Ends the current field, if there is one. -/
def close (f : Fields) : Fields :=
  match f.current with
  | none => f
  | some field => ⟨field :: f.done, none, true⟩

/-- Ends the current field at a separator that is no blank, even if the field is empty. -/
def cut (f : Fields) : Fields :=
  if f.current.isNone && f.afterBlank then { f with afterBlank := false }
  else ⟨f.current.getD [] :: f.done, none, false⟩

/-- Adds characters that are split at separators, blanks among which count as one. -/
def split (separators : List Char) (f : Fields) (t : List Marked) : Fields :=
  t.foldl
    (fun f c =>
      if c.2 || !separators.contains c.1 then f.add [c]
      else if c.1 = ' ' ∨ c.1 = '\t' ∨ c.1 = '\n' then f.close
      else f.cut)
    f

/-- Adds texts as fields of their own, the first to the current field. -/
def several (f : Fields) : List String → Fields
  | [] => f
  | [t] => f.add (marked true t)
  | t :: ts => (f.add (marked true t)).close.several ts

/-- The fields in order. -/
def toList (f : Fields) : List (List Marked) := f.close.done.reverse.map List.reverse

end Fields

/-- How deep words may stand in words. -/
def depth : Nat := 1000

/-- Adds a part to the fields. -/
def addPart (substitute : Substitute) (state : Fields × Session) (part : Part) :
    Fields × Session :=
  let (f, s) := state
  match part with
  | .plain t => (f.add (marked false t), s)
  | .parameter "@" true => (f.several s.args, s)
  | .parameter "@" false =>
    let sep := separators s
    match s.args with
    | [] => (f, s)
    | arg :: args =>
      (args.foldl (fun f t => f.close.split sep (marked false t)) (f.split sep (marked false arg)),
        s)
  | _ =>
    let (t, s) := text substitute depth part s
    (if isQuoted part then f.add t else f.split (separators s) t, s)

/-- The field is a pattern for the names in the working directory. -/
def isPattern (field : List Marked) : Bool :=
  Pattern.isSpecial field && !field.any (·.1 = '/')

/-- The names that a pattern matches, or the pattern itself. -/
def matching (s : Session) (field : List Marked) : List String :=
  if isPattern field then
    let names := s.files.listing.filterMap fun (place, _) =>
      match place with
      | [name] => some (Session.ofBytes name)
      | _ => none
    let pattern := Pattern.ofMarked field
    match names.filter fun name => !name.startsWith "." && Pattern.isMatch pattern name.toList with
    | [] => [unmarked field]
    | found => found
  else [unmarked field]

/-- The fields that a word becomes. -/
def fields (substitute : Substitute) (word : Word) (s : Session) : List String × Session :=
  if word = [.quoted "", .parameter "@" true] ∧ s.args = [] then ([], s)
  else
    let (f, s) := word.foldl (addPart substitute) (.empty, s)
    (f.toList.flatMap (matching s), s)

/-- The fields that words become. -/
def allFields (substitute : Substitute) : List Word → Session → List String × Session
  | [], s => ([], s)
  | w :: ws, s =>
    if !s.running then ([], s)
    else
      let (first, s) := fields substitute w s
      let (rest, s) := allFields substitute ws s
      (first ++ rest, s)

/-- The one text that a word becomes where it is not split. -/
def single (substitute : Substitute) (word : Word) (s : Session) : String × Session :=
  let (t, s) := texts substitute (depth + word.length) word s
  (unmarked t, s)

/-- The pattern that a word becomes. -/
def pattern (substitute : Substitute) (word : Word) (s : Session) :
    List Pattern.Piece × Session :=
  let (t, s) := texts substitute (depth + word.length) word s
  (Pattern.ofMarked t, s)

end Expansion

end SoakRig.Shell
