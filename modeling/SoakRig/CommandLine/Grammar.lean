import SoakRig.Decimal.Digits
import SoakRig.Decimal.Signed
import SoakRig.Environment
import SoakRig.Text.Pieces
import SoakRig.Text.Terminal

/-!
# Command-line grammars

A grammar lists the options of a program; each knows how to put its value into a draft of the
settings. Reading a command line fills the draft from left to right, the first fault ends the
reading, and options that were not given are then looked up in the environment.

The value of an option stands in its own token, behind an equals sign, or in the next token. A value
in the next token is looked at only when something else that the grammar knows comes up, or at the
end. If the grammar takes a command, the first token that is neither an option nor a value starts
it, and from there on nothing is an option. Tokens and values are bytes; a command has to be text, and
so do most values.
-/

namespace SoakRig.CommandLine

/-- Why a value is refused. -/
inductive Reason where
  | missing
  | notText
  | because (text : String)

/-- Why the reading of a command line ends early. -/
inductive Fault where
  /-- An option without its value. -/
  | missing (option : String)
  /-- An option with a value that it does not take. -/
  | invalid (option value reason : String)
  | repeated (option : String)
  /-- A flag with a value. -/
  | surplus (option value : String)
  | unknown (token : String)
  /-- A value or a command whose bytes are no text. -/
  | notText
  | help
  | version
deriving DecidableEq

namespace Fault

/-- The name of the kind of fault. -/
def kind : Fault → String
  | missing _ => "InvalidValue"
  | invalid .. => "ValueValidation"
  | repeated _ => "ArgumentConflict"
  | surplus .. => "TooManyValues"
  | unknown _ => "UnknownArgument"
  | notText => "InvalidUtf8"
  | help => "DisplayHelp"
  | version => "DisplayVersion"

/-- The exit code of a program whose command line has the fault. -/
def exitCode : Fault → Int32
  | help => 0
  | version => 0
  | _ => 2

open Text.Terminal (emphasized)

/-- What is said about the fault on a terminal. -/
def message : Fault → String
  | missing option =>
    "a value is required for '" ++ emphasized option ++ "' but none was supplied"
  | invalid option value reason =>
    "invalid value '" ++ emphasized value ++ "' for '" ++ emphasized option ++ "': " ++ reason
  | repeated option =>
    "the argument '" ++ emphasized option ++ "' cannot be used multiple times"
  | surplus option value =>
    "unexpected value '" ++ emphasized value ++ "' for '" ++ emphasized option ++
      "' found; no more were expected"
  | unknown token => "unexpected argument '" ++ emphasized token ++ "' found"
  | notText => "invalid UTF-8 was detected in one or more arguments"
  | help => ""
  | version => ""

/-- The whole report of the fault on a terminal. -/
def report (f : Fault) : String :=
  emphasized "error:" ++ " " ++ f.message ++ "\n\nFor more information, try '" ++
    emphasized "--help" ++ "'.\n"

/--
The lines of the report for a reader that is no terminal. Control sequences in a value are left out
with those of the report.
-/
def lines (f : Fault) : List String :=
  (Text.lines (Text.Terminal.plain f.report.toList)).map String.ofList

end Fault

/-- An option that fills in a draft of the settings. -/
structure Spec (δ : Type) where
  long : String
  short : Option Char
  /-- What the value is called; a flag has none. -/
  valueName : Option String
  /-- The variable to look at if the option is not given. -/
  variableName : Option String
  /-- The draft has a value for the option. -/
  isSet : δ → Bool
  /-- The draft with a value for the option. A flag does not look at the value. -/
  set : List UInt8 → δ → Except Reason δ

/-- A value of which something is made only if it is text. -/
def ofText {α : Type} (f : String → Except Reason α) (value : List UInt8) : Except Reason α :=
  match Text.decode? value with
  | some text => f (String.ofList text)
  | none => .error .notText

namespace Spec

variable {δ : Type}

/-- The option as messages name it. -/
def display (o : Spec δ) : String :=
  match o.valueName with
  | some name => "--" ++ o.long ++ " <" ++ name ++ ">"
  | none => "--" ++ o.long

def isFlag (o : Spec δ) : Bool := o.valueName.isNone

/-- Puts a value in, whatever the draft holds. -/
def put (o : Spec δ) (value : List UInt8) (draft : δ) : Except Fault δ :=
  match o.set value draft with
  | .ok draft' => .ok draft'
  | .error .missing => .error (.missing o.display)
  | .error .notText => .error .notText
  | .error (.because reason) => .error (.invalid o.display (Text.shown value) reason)

/-- Puts a value in, unless there is one. -/
def give (o : Spec δ) (value : List UInt8) (draft : δ) : Except Fault δ :=
  if o.isSet draft then .error (.repeated o.display) else o.put value draft

end Spec

/-- The options of a program, and what it does with a command, if it takes one. -/
structure Grammar (δ : Type) where
  specs : List (Spec δ)
  command : Option (List String → δ → δ)

/-- A draft and the option that a value is still to be put in for, with the value if it has come. -/
structure State (δ : Type) where
  draft : δ
  pending : Option (Spec δ × Option (List UInt8))

/-- What a token looks like. -/
inductive Token where
  | separator
  | long (name : String) (value : Option (List UInt8))
  /-- An option whose name is no text, as it is shown. -/
  | nameless (shown : String)
  /-- Letters of options, and the bytes from the first that is part of no letter. -/
  | short (flags : List Char) (rest : List UInt8)
  | word
deriving DecidableEq

namespace Token

/-- Stands in front of the letter of an option, and twice in front of its name. -/
def dash : UInt8 := 0x2D

/-- Stands between the name of an option and its value. -/
def equals : UInt8 := 0x3D

/-- What looks like an option that is written out, from its name on. -/
def ofName (bytes : List UInt8) : Token :=
  let name := bytes.takeWhile (· ≠ equals)
  let value := bytes.drop name.length
  match Text.decode? name with
  | some text => .long (String.ofList text) (if value = [] then none else some (value.drop 1))
  | none => .nameless (Text.shown name)

/-- What looks like letters of options. -/
def ofLetters (bytes : List UInt8) : Token :=
  let (flags, rest) := Text.decodeFront bytes
  .short flags rest

/-- What a token looks like. -/
def ofBytes : List UInt8 → Token
  | [] => .word
  | [_] => .word
  | a :: b :: rest =>
    if a ≠ dash then .word
    else if b ≠ dash then ofLetters (b :: rest)
    else if rest = [] then .separator
    else ofName rest

end Token

namespace Grammar

variable {δ : Type}

def takesCommand (g : Grammar δ) : Bool := g.command.isSome

def findLong? (g : Grammar δ) (name : String) : Option (Spec δ) := g.specs.find? (·.long = name)

def findShort? (g : Grammar δ) (c : Char) : Option (Spec δ) := g.specs.find? (·.short = some c)

/-- The flags that every program has. -/
def builtIn? : String → Option Fault
  | "help" => some .help
  | "version" => some .version
  | _ => none

/-- The letters of the flags that every program has. -/
def builtInShort? : Char → Option Fault
  | 'h' => some .help
  | 'V' => some .version
  | _ => none

/-- The letter is that of an option. -/
def knowsShort (g : Grammar δ) (c : Char) : Bool :=
  (g.findShort? c).isSome || (builtInShort? c).isSome

/-- Puts in what is pending. -/
def settle (s : State δ) : Except Fault δ :=
  match s.pending with
  | none => .ok s.draft
  | some (o, none) => .error (.missing o.display)
  | some (o, some value) => o.give value s.draft

/-- Puts in what is pending and then a value. -/
def settleAndGive (o : Spec δ) (value : List UInt8) (s : State δ) : Except Fault (State δ) := do
  let draft ← settle s
  return ⟨← o.give value draft, none⟩

/-- Puts in what is pending; the value of the option is still to come. -/
def settleAndAwait (o : Spec δ) (s : State δ) : Except Fault (State δ) := do
  return ⟨← settle s, some (o, none)⟩

/-- Puts in what is pending, and then ends the reading. -/
def settleAndStop (fault : Fault) (s : State δ) : Except Fault (State δ) := do
  let _ ← settle s
  throw fault

/-- Reads an option that is written out. Nothing is read if the token may be something else. -/
def long (g : Grammar δ) (name : String) (value : Option (List UInt8)) (s : State δ) :
    Option (Except Fault (State δ)) :=
  match g.findLong? name, builtIn? name, value with
  | some o, _, some v =>
    some (if o.isFlag then .error (.surplus o.display (Text.shown v)) else settleAndGive o v s)
  | some o, _, none => some (if o.isFlag then settleAndGive o [] s else settleAndAwait o s)
  | none, some _, some v => some (.error (.surplus ("--" ++ name) (Text.shown v)))
  | none, some fault, none => some (settleAndStop fault s)
  | none, none, _ => if g.takesCommand then none else some (.error (.unknown ("--" ++ name)))

/-- The value behind a letter in the same token. -/
def attached : List UInt8 → Option (List UInt8)
  | [] => none
  | b :: rest => some (if b = Token.equals then rest else b :: rest)

/-- Reads letters of options, which some more bytes follow. Behind the letter of an option with a value
stands the value. -/
def cluster (g : Grammar δ) (rest : List UInt8) : List Char → State δ → Except Fault (State δ)
  | [], s => if rest = [] then .ok s else .error (.unknown ("-" ++ Text.shown rest))
  | c :: cs, s =>
    match g.findShort? c, builtInShort? c with
    | some o, _ =>
      if o.isFlag then do g.cluster rest cs (← settleAndGive o [] s)
      else
        match attached (Text.utf8 cs ++ rest) with
        | some v => settleAndGive o v s
        | none => settleAndAwait o s
    | none, some fault => settleAndStop fault s
    | none, none => .error (.unknown ("-" ++ String.ofList [c]))

/-- Reads a token as options. Nothing is read if it is something else. -/
def option (g : Grammar δ) (token : List UInt8) (s : State δ) :
    Option (Except Fault (State δ)) :=
  match Token.ofBytes token with
  | .long name value => g.long name value s
  | .nameless shown => some (.error (.unknown ("--" ++ shown)))
  | .short flags rest =>
    if g.takesCommand && (rest ≠ [] || flags.any fun c => !g.knowsShort c) then none
    else some (g.cluster rest flags s)
  | _ => none

/-- The texts of tokens, if all of them are text. -/
def texts? (tokens : List (List UInt8)) : Option (List String) :=
  tokens.mapM fun token => (Text.decode? token).map String.ofList

/-- Takes the tokens as the command. -/
def takeCommand (g : Grammar δ) (tokens : List (List UInt8)) (s : State δ) : Except Fault δ :=
  match g.command, tokens with
  | _, [] => settle s
  | some set, tokens => do
    let draft ← settle s
    match texts? tokens with
    | some texts => return set texts draft
    | none => throw .notText
  | none, token :: _ => .error (.unknown (Text.shown token))

/-- Reads tokens from left to right. -/
def scan (g : Grammar δ) : List (List UInt8) → State δ → Except Fault δ
  | [], s => settle s
  | token :: tokens, s =>
    if Token.ofBytes token = .separator then g.takeCommand tokens s
    else
      match g.option token s with
      | some (.ok s') => g.scan tokens s'
      | some (.error fault) => .error fault
      | none =>
        match s.pending with
        | some (o, none) => g.scan tokens { s with pending := some (o, some token) }
        | _ => g.takeCommand (token :: tokens) s

/-- Looks an option up in the environment if it is not given. -/
def lookUp (env : Environment) (o : Spec δ) (draft : δ) : Except Fault δ :=
  if o.isSet draft then .ok draft
  else
    match o.variableName.bind env.bytes? with
    | none => .ok draft
    | some bytes => o.put bytes draft

/-- Looks options up in the environment, in order. -/
def lookUpAll (env : Environment) : List (Spec δ) → δ → Except Fault δ
  | [], draft => .ok draft
  | o :: os, draft =>
    match lookUp env o draft with
    | .ok draft' => lookUpAll env os draft'
    | .error fault => .error fault

/-- Reads a command line in an environment, starting from an empty draft. -/
def read (g : Grammar δ) (env : Environment) (args : List (List UInt8)) (empty : δ) :
    Except Fault δ :=
  match g.scan args ⟨empty, none⟩ with
  | .ok draft => lookUpAll env g.specs draft
  | .error fault => .error fault

end Grammar

/-- Reads a whole number from `low` to `high`. -/
def wholeNumber (low high : Int) (text : String) : Except Reason Int :=
  match Decimal.signed text.toList with
  | .error e => .error (.because e.message)
  | .ok n =>
    if low ≤ n ∧ n ≤ high then .ok n
    else
      .error (.because (String.ofList (Decimal.integer n) ++ " is not in " ++
        String.ofList (Decimal.integer low) ++ "..=" ++ String.ofList (Decimal.integer high)))

end SoakRig.CommandLine
