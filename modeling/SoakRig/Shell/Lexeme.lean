import SoakRig.Shell.Script

/-!
# Lexemes of shell scripts

Words, operators, redirections and the texts that are read in place of files, with the lines they
stand on.
-/

namespace SoakRig.Shell

/-- Why a script cannot be read. -/
inductive SyntaxFault where
  | openQuote
  | openBackquote
  | missing (closer : String)
  | badLoopVariable
  | badFunctionName
  | unexpected (what : String) (expected : Option String)
deriving DecidableEq

namespace SyntaxFault

/-- What is wrong. -/
def reason : SyntaxFault → String
  | openQuote => "Unterminated quoted string"
  | openBackquote => "EOF in backquote substitution"
  | missing closer => "Missing '" ++ closer ++ "'"
  | badLoopVariable => "Bad for loop variable"
  | badFunctionName => "Bad function name"
  | unexpected what none => what ++ " unexpected"
  | unexpected what (some expected) => what ++ " unexpected (expecting " ++ expected ++ ")"

def message (f : SyntaxFault) : String := "Syntax error: " ++ f.reason

end SyntaxFault

/-- What a script is read as first. -/
inductive Lexeme where
  | word (w : Word)
  | operator (text : String)
  | newline
  | redirect (descriptor : Option Nat) (text : String)
  /-- A text that is read in place of a file; it stands behind the line that asks for it. -/
  | document (w : Word)
  /-- The script cannot be read from here on. -/
  | fault (f : SyntaxFault)
deriving DecidableEq

/-- A lexeme and the line it stands on. -/
structure Token where
  line : Nat
  lexeme : Lexeme

namespace Lexeme

def isNameStart (c : Char) : Bool := c.isAlpha || c = '_'

def isNameChar (c : Char) : Bool := c.isAlphanum || c = '_'

/-- The text is a name. -/
def isName (text : String) : Bool :=
  match text.toList with
  | [] => false
  | c :: cs => isNameStart c && cs.all isNameChar

/-- The character is a parameter by itself. -/
def isSpecial (c : Char) : Bool := "@*#?$!-".toList.contains c

/-- The character ends a word. -/
def endsWord (c : Char) : Bool := " \t\n;&|<>()".toList.contains c

/--
The text up to the bracket that closes the one before it, and the text after that bracket. Brackets
inside quotes and behind backslashes do not count.
-/
def closing (opener closer : Char) : (depth : Nat) → (quote : Option Char) → (done : List Char) →
    List Char → Option (List Char × List Char)
  | _, _, _, [] => none
  | depth, quote, done, '\\' :: c :: rest =>
    if quote = some '\'' then
      closing opener closer depth (if c = '\'' then none else quote) (c :: '\\' :: done) rest
    else closing opener closer depth quote (c :: '\\' :: done) rest
  | depth, some q, done, c :: rest =>
    closing opener closer depth (if c = q then none else some q) (c :: done) rest
  | depth, none, done, c :: rest =>
    if c = closer then
      match depth with
      | 0 => some (done.reverse, rest)
      | depth + 1 => closing opener closer depth none (c :: done) rest
    else if c = opener then closing opener closer (depth + 1) none (c :: done) rest
    else if c = '\'' ∨ c = '"' then closing opener closer depth (some c) (c :: done) rest
    else closing opener closer depth none (c :: done) rest

/-- The text between backquotes, with the backslashes before special characters taken off. -/
def backquoted : (done : List Char) → List Char → Option (List Char × List Char)
  | _, [] => none
  | done, '\x60' :: rest => some (done.reverse, rest)
  | done, '\\' :: c :: rest =>
    if c = '\x60' ∨ c = '\\' ∨ c = '$' then backquoted (c :: done) rest
    else backquoted (c :: '\\' :: done) rest
  | done, c :: rest => backquoted (c :: done) rest

/-- The kind of fallback that a letter stands for. -/
def fallbackKind? : Char → Option Fallback
  | '-' => some .use
  | '=' => some .assign
  | '+' => some .replace
  | '?' => some .demand
  | _ => none

/-- The part that a parameter and what stands behind its name make. -/
def modified (name : String) (inQuotes : Bool) : List Char → Part
  | [] => .parameter name inQuotes
  | '%' :: '%' :: w => .trimmed name true true (String.ofList w) inQuotes
  | '%' :: w => .trimmed name true false (String.ofList w) inQuotes
  | '#' :: '#' :: w => .trimmed name false true (String.ofList w) inQuotes
  | '#' :: w => .trimmed name false false (String.ofList w) inQuotes
  | ':' :: c :: w =>
    match fallbackKind? c with
    | some kind => .withFallback name kind true (String.ofList w) inQuotes
    | none => .malformed
  | c :: w =>
    match fallbackKind? c with
    | some kind => .withFallback name kind false (String.ofList w) inQuotes
    | none => .malformed

/-- The name of a parameter at the front of a text, and what follows it. -/
def parameterName (text : List Char) : List Char × List Char :=
  match text with
  | [] => ([], [])
  | c :: rest =>
    if isNameStart c then text.span isNameChar
    else if c.isDigit then text.span Char.isDigit
    else if isSpecial c then ([c], rest)
    else ([], text)

/-- The part that stands between braces. -/
def braced (inQuotes : Bool) (text : List Char) : Part :=
  match text with
  | '#' :: c :: rest =>
    let (name, after) := parameterName (c :: rest)
    if name ≠ [] ∧ after = [] then .length (String.ofList name) inQuotes else .malformed
  | _ =>
    let (name, after) := parameterName text
    if name = [] then .malformed else modified (String.ofList name) inQuotes after

/-- The part that a dollar sign starts, and the text after it. -/
def dollar (inQuotes : Bool) (text : List Char) : Except SyntaxFault (Part × List Char) :=
  match text with
  | '(' :: rest =>
    match closing '(' ')' 0 none [] rest with
    | none =>
      .error (if rest.head? = some '(' then .missing "))"
        else .unexpected "end of file" (some "\")\""))
    | some (inner, after) =>
      if inner.head? = some '(' ∧ inner.getLast? = some ')' then
        .ok (.number (String.ofList (inner.drop 1).dropLast) inQuotes, after)
      else .ok (.output (String.ofList inner) inQuotes, after)
  | '\x7b' :: rest =>
    match closing '\x7b' '\x7d' 0 none [] rest with
    | none => .error (if inQuotes then .openQuote else .missing "\x7d")
    | some (inner, after) => .ok (braced inQuotes inner, after)
  | c :: rest =>
    if isNameStart c then
      let (name, after) := text.span isNameChar
      .ok (.parameter (String.ofList name) inQuotes, after)
    else if c.isDigit || isSpecial c then
      .ok (.parameter (String.ofList [c]) inQuotes, rest)
    else .ok (if inQuotes then .quoted "$" else .plain "$", text)
  | [] => .ok (if inQuotes then .quoted "$" else .plain "$", [])

/-- Puts a character in front of the parts of a word. -/
def consPlain (c : Char) : Word → Word
  | .plain text :: parts => .plain (String.ofList (c :: text.toList)) :: parts
  | parts => .plain (String.ofList [c]) :: parts

/-- Puts a quoted character in front of the parts of a word. -/
def consQuoted (c : Char) : Word → Word
  | .quoted text :: parts => .quoted (String.ofList (c :: text.toList)) :: parts
  | parts => .quoted (String.ofList [c]) :: parts

/-- Reads text in which dollar signs and backquotes keep their meaning: up to a double quote, or all
of it. Gives the text after the quote. -/
def inDouble (toQuote : Bool) : (fuel : Nat) → List Char → Except SyntaxFault (Word × List Char)
  | 0, _ => .error .openQuote
  | _, [] => if toQuote then .error .openQuote else .ok ([], [])
  | fuel + 1, '\\' :: c :: rest =>
    if c = '\n' then inDouble toQuote fuel rest
    else do
      let (parts, after) ← inDouble toQuote fuel rest
      let parts := consQuoted c parts
      let isTakenOff := "$\x60\\".toList.contains c || (toQuote && c = '"')
      return (if isTakenOff then parts else consQuoted '\\' parts, after)
  | fuel + 1, '$' :: rest => do
    let (part, rest) ← dollar true rest
    let (parts, after) ← inDouble toQuote fuel rest
    return (part :: parts, after)
  | fuel + 1, '\x60' :: rest =>
    match backquoted [] rest with
    | none => .error .openBackquote
    | some (script, rest) => do
      let (parts, after) ← inDouble toQuote fuel rest
      return (.output (String.ofList script) true :: parts, after)
  | fuel + 1, c :: rest =>
    if c = '"' ∧ toQuote then .ok ([], rest)
    else do
      let (parts, after) ← inDouble toQuote fuel rest
      return (consQuoted c parts, after)

/-- The parts of a text in which dollar signs and backquotes keep their meaning. -/
def partsOf (text : String) : Word :=
  match inDouble false (text.length + 1) text.toList with
  | .ok (parts, _) => parts
  | .error _ => [.quoted text]

/-- Reads a word up to a character that ends it, and gives the text from there on. -/
def readWord (ends : Char → Bool) : (fuel : Nat) → List Char → Except SyntaxFault (Word × List Char)
  | 0, text => .ok ([], text)
  | _, [] => .ok ([], [])
  | fuel + 1, '\\' :: c :: rest =>
    if c = '\n' then readWord ends fuel rest
    else do
      let (parts, after) ← readWord ends fuel rest
      return (.quoted (String.ofList [c]) :: parts, after)
  | fuel + 1, '\'' :: rest =>
    let text := rest.takeWhile (· ≠ '\'')
    match rest.drop text.length with
    | [] => .error .openQuote
    | _ :: rest => do
      let (parts, after) ← readWord ends fuel rest
      return (.quoted (String.ofList text) :: parts, after)
  | fuel + 1, '"' :: rest => do
    let (inner, rest) ← inDouble true (rest.length + 1) rest
    let (parts, after) ← readWord ends fuel rest
    return (.quoted "" :: inner ++ parts, after)
  | fuel + 1, '$' :: rest => do
    let (part, rest) ← dollar false rest
    let (parts, after) ← readWord ends fuel rest
    return (part :: parts, after)
  | fuel + 1, '\x60' :: rest =>
    match backquoted [] rest with
    | none => .error .openBackquote
    | some (script, rest) => do
      let (parts, after) ← readWord ends fuel rest
      return (.output (String.ofList script) false :: parts, after)
  | fuel + 1, c :: rest =>
    if ends c then .ok ([], c :: rest)
    else do
      let (parts, after) ← readWord ends fuel rest
      return (consPlain c parts, after)

/-- The parts of a text that is a word from end to end. -/
def wordOf (text : String) : Word :=
  match readWord (fun _ => false) (text.length + 1) text.toList with
  | .ok (parts, _) => parts
  | .error _ => [.quoted text]

/-- A word with the home directory in place of a tilde in front. -/
def withHome : Word → Word
  | .plain text :: parts =>
    match text.toList with
    | ['~'] => if parts = [] then [.home] else .plain text :: parts
    | '~' :: '/' :: rest => .home :: .plain (String.ofList ('/' :: rest)) :: parts
    | _ => .plain text :: parts
  | w => w

/-- The text of a word without what is special in it, and whether some of it is quoted. -/
def delimiter (w : Word) : String × Bool :=
  w.foldl
    (fun (t, isQuoted) part =>
      match part with
      | .plain u => (t ++ u, isQuoted)
      | .quoted u => (t ++ u, true)
      | _ => (t, isQuoted))
    ("", false)

/-- A text that is read in place of a file, while its lines have not come yet. -/
structure Awaited where
  delimiter : String
  isQuoted : Bool
  /-- Tabs in front of its lines are left out. -/
  withoutTabs : Bool

/-- The lines of a text up to its delimiter, and what follows. -/
def takeDocument (a : Awaited) : (fuel : Nat) → (done : List Char) → List Char →
    List Char × List Char
  | 0, done, text => (done, text)
  | _, done, [] => (done, [])
  | fuel + 1, done, c :: rest =>
    let line := (c :: rest).takeWhile (· ≠ '\n')
    let after := (c :: rest).drop line.length
    let line := if a.withoutTabs then line.dropWhile (· = '\t') else line
    if String.ofList line = a.delimiter then (done, after.drop 1)
    else takeDocument a fuel (done ++ line ++ after.take 1) (after.drop 1)

/-- The word that a text read in place of a file is. -/
def documentWord (a : Awaited) (text : List Char) : Word :=
  if a.isQuoted then [.quoted (String.ofList text)] else partsOf (String.ofList text)

/-- How many lines end between the start of a text and the part of it that is left. -/
def linesEnded (text rest : List Char) : Nat :=
  (text.take (text.length - rest.length)).count '\n'

/-- The texts that were asked for on a line, and what follows them. -/
def takeDocuments (line : Nat) : List Awaited → List Char → List Token × List Char
  | [], text => ([], text)
  | a :: more, text =>
    let (body, after) := takeDocument a (text.length + 1) [] text
    let (tokens, rest) := takeDocuments (line + linesEnded text after) more after
    (⟨line, .document (documentWord a body)⟩ :: tokens, rest)

/-- The operator at the front of a text, and the text after it. -/
def operator? : List Char → Option (Lexeme × List Char)
  | '&' :: '&' :: rest => some (.operator "&&", rest)
  | '|' :: '|' :: rest => some (.operator "||", rest)
  | ';' :: ';' :: rest => some (.operator ";;", rest)
  | '&' :: rest => some (.operator "&", rest)
  | '|' :: rest => some (.operator "|", rest)
  | ';' :: rest => some (.operator ";", rest)
  | '(' :: rest => some (.operator "(", rest)
  | ')' :: rest => some (.operator ")", rest)
  | _ => none

/-- The redirection at the front of a text, and the text after it. -/
def redirect? : List Char → Option (String × List Char)
  | '>' :: '>' :: rest => some (">>", rest)
  | '>' :: '&' :: rest => some (">&", rest)
  | '>' :: '|' :: rest => some (">", rest)
  | '<' :: '&' :: rest => some ("<&", rest)
  | '<' :: '<' :: '-' :: rest => some ("<<-", rest)
  | '<' :: '<' :: rest => some ("<<", rest)
  | '>' :: rest => some (">", rest)
  | '<' :: rest => some ("<", rest)
  | _ => none

/-- The redirection at the front of a text, perhaps with the digit of a descriptor. -/
def numberedRedirect? (text : List Char) : Option (Option Nat × String × List Char) :=
  match text with
  | c :: rest =>
    if c.isDigit then (redirect? rest).map fun r => (some (c.toNat - '0'.toNat), r)
    else (redirect? text).map fun r => (none, r)
  | [] => none

/-- What the reading of lexemes has to keep in mind. -/
structure Pending where
  /-- The texts that the next lines are. -/
  documents : List Awaited
  /-- The next word is the delimiter of such a text, which may go without tabs. -/
  delimiter : Option Bool

/-- What is pending after a word. -/
def Pending.afterWord (p : Pending) (w : Word) : Pending :=
  match p.delimiter with
  | none => p
  | some withoutTabs =>
    let (text, isQuoted) := Lexeme.delimiter w
    ⟨p.documents ++ [⟨text, isQuoted, withoutTabs⟩], none⟩

/-- Reads lexemes from a line on. -/
def readAll : (fuel line : Nat) → Pending → List Char → List Token
  | 0, _, _, _ => []
  | _, line, p, [] => (takeDocuments line p.documents []).1
  | fuel + 1, line, p, '\\' :: '\n' :: rest => readAll fuel (line + 1) p rest
  | fuel + 1, line, p, c :: rest =>
    if c = ' ' ∨ c = '\t' then readAll fuel line p rest
    else if c = '\n' then
      let (documents, after) := takeDocuments (line + 1) p.documents rest
      ⟨line, .newline⟩ :: documents ++
        readAll fuel (line + 1 + linesEnded rest after) ⟨[], none⟩ after
    else if c = '#' then readAll fuel line p (rest.dropWhile (· ≠ '\n'))
    else
      match operator? (c :: rest), numberedRedirect? (c :: rest) with
      | some (lexeme, rest), _ => ⟨line, lexeme⟩ :: readAll fuel line p rest
      | none, some (d, text, rest) =>
        let p :=
          if text = "<<" then { p with delimiter := some false }
          else if text = "<<-" then { p with delimiter := some true }
          else p
        ⟨line, .redirect d text⟩ :: readAll fuel line p rest
      | none, none =>
        match readWord endsWord (rest.length + 2) (c :: rest) with
        | .error f => [⟨line, .fault f⟩]
        | .ok (w, after) =>
          ⟨line, .word (withHome w)⟩ ::
            readAll fuel (line + linesEnded (c :: rest) after) (p.afterWord w) after

/-- Puts the texts that are read in place of files where they are asked for. -/
def placeDocuments : (documents : List Word) → List Token → List Token
  | _, [] => []
  | w :: documents, ⟨l, .redirect d text⟩ :: ⟨l', .word v⟩ :: rest =>
    if text = "<<" ∨ text = "<<-" then
      ⟨l, .redirect d "<<"⟩ :: ⟨l', .word w⟩ :: placeDocuments documents rest
    else ⟨l, .redirect d text⟩ :: placeDocuments (w :: documents) (⟨l', .word v⟩ :: rest)
  | documents, ⟨l, lexeme⟩ :: rest =>
    match lexeme with
    | .document _ => placeDocuments documents rest
    | _ => ⟨l, lexeme⟩ :: placeDocuments documents rest
termination_by _ tokens => tokens.length

/-- The lexemes of a script. -/
def ofText (text : List Char) : List Token :=
  let tokens := readAll (text.length + 1) 1 ⟨[], none⟩ text
  let documents := tokens.filterMap fun t =>
    match t.lexeme with
    | .document w => some w
    | _ => none
  placeDocuments documents tokens

end Lexeme

end SoakRig.Shell
