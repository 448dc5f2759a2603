import SoakRig.Shell.Lexeme

/-!
# Reading shell scripts

Commands from lexemes. A script is read one line at a time, so that what stands before a faulty line
is still run.
-/

namespace SoakRig.Shell.Reader

/-- Why something cannot be read, and the line on which it shows. -/
abbrev Fault := Nat × SyntaxFault

/-- Something that was read, and the lexemes after it. -/
abbrev Rest (α : Type) := α × List Token

/-- The text of a word without quotes or parameters. -/
def bare? : Word → Option String
  | [.plain text] => some text
  | _ => none

/-- The words that end a part of a compound command or start one. -/
def reserved : List String := [
  "if", "then", "elif", "else", "fi", "while", "until", "do", "done", "for", "in", "\x7b", "\x7d",
  "!", "case", "esac"]

/-- The reserved word that a lexeme is. -/
def reserved? : Lexeme → Option String
  | .word w => (bare? w).filter reserved.contains
  | _ => none

/-- A text between double quotes. -/
def inQuotes (text : String) : String := "\"" ++ text ++ "\""

/-- How a lexeme is called in a complaint. -/
def describe : Lexeme → String
  | .word w =>
    match reserved? (.word w) with
    | some text => inQuotes text
    | none => "word"
  | .operator text => inQuotes text
  | .newline => "newline"
  | .redirect _ _ => "redirection"
  | .document _ => ""
  | .fault _ => ""

/-- Only what is expected can stand here. -/
def complainExpecting {α : Type} (expected : Option String) (line : Nat) (tokens : List Token) :
    Except Fault (Rest α) :=
  match tokens with
  | [] => .error (line, .unexpected "end of file" expected)
  | ⟨l, .fault f⟩ :: _ => .error (l, f)
  | t :: _ => .error (t.line, .unexpected (describe t.lexeme) expected)

/-- What comes next cannot stand here. -/
def complain {α : Type} (line : Nat) (tokens : List Token) : Except Fault (Rest α) :=
  complainExpecting none line tokens

/-- The lexemes without the line ends in front. -/
def skipNewlines : List Token → List Token
  | [] => []
  | t :: rest => if t.lexeme = .newline then skipNewlines rest else t :: rest

/-- Takes a reserved word. -/
def expectWord (line : Nat) (text : String) (tokens : List Token) : Except Fault (Rest Unit) :=
  match skipNewlines tokens with
  | t :: rest =>
    if reserved? t.lexeme = some text then .ok ((), rest)
    else complainExpecting (some (inQuotes text)) line (t :: rest)
  | [] => complainExpecting (some (inQuotes text)) line []

/-- Takes an operator. -/
def expectOperator (line : Nat) (text : String) (tokens : List Token) : Except Fault (Rest Unit) :=
  match tokens with
  | t :: rest =>
    if t.lexeme = .operator text then .ok ((), rest)
    else complainExpecting (some (inQuotes text)) line (t :: rest)
  | [] => complainExpecting (some (inQuotes text)) line []

/-- The redirection that an operator and a word make. -/
def redirection (descriptor : Option Nat) (text : String) (w : Word) : Redirection :=
  match text with
  | "<" => ⟨descriptor.getD 0, .fromFile, w⟩
  | "<&" => ⟨descriptor.getD 0, .duplicate, w⟩
  | "<<" => ⟨descriptor.getD 0, .fromText, w⟩
  | ">>" => ⟨descriptor.getD 1, .appendFile, w⟩
  | ">&" => ⟨descriptor.getD 1, .duplicate, w⟩
  | _ => ⟨descriptor.getD 1, .toFile, w⟩

/-- Reads redirections. -/
def redirections (line : Nat) : List Token → Except Fault (Rest (List Redirection))
  | ⟨_, .redirect d text⟩ :: ⟨_, .word w⟩ :: rest => do
    let (more, rest) ← redirections line rest
    return (redirection d text w :: more, rest)
  | ⟨l, .redirect _ _⟩ :: rest => complain l rest
  | tokens => .ok ([], tokens)

/-- The assignment that a word is, if it starts with a name and an equals sign. -/
def assignment? : Word → Option (String × Word)
  | .plain text :: parts =>
    let (name, rest) := text.toList.span Lexeme.isNameChar
    match name, rest with
    | c :: _, '=' :: value =>
      if Lexeme.isNameStart c then
        let more := if value = [] then parts else .plain (String.ofList value) :: parts
        some (String.ofList name, Lexeme.withHome more)
      else none
    | _, _ => none
  | _ => none

/-- What a simple command is made of. -/
structure Pieces where
  assignments : List (String × Word)
  words : List Word
  redirections : List Redirection

/-- Reads the rest of a simple command. -/
def simple (line : Nat) (p : Pieces) : List Token → Except Fault (Rest Pieces)
  | ⟨_, .word w⟩ :: rest =>
    match if p.words = [] then assignment? w else none with
    | some a => simple line { p with assignments := p.assignments ++ [a] } rest
    | none => simple line { p with words := p.words ++ [w] } rest
  | ⟨_, .redirect d text⟩ :: ⟨_, .word w⟩ :: rest =>
    simple line { p with redirections := p.redirections ++ [redirection d text w] } rest
  | ⟨l, .redirect _ _⟩ :: rest => complain l rest
  | tokens => .ok (p, tokens)

/-- Reads the words of a loop up to the end of the line. -/
def wordsOfLine : List Token → List Word × List Token
  | ⟨_, .word w⟩ :: rest =>
    let (more, rest) := wordsOfLine rest
    (w :: more, rest)
  | tokens => ([], tokens)

/-- Reads the patterns of a case and the bracket behind them. -/
def patterns (line : Nat) : List Token → Except Fault (Rest (List Word))
  | ⟨_, .word w⟩ :: ⟨_, .operator "|"⟩ :: rest => do
    let (more, rest) ← patterns line rest
    return (w :: more, rest)
  | ⟨l, .word w⟩ :: rest => do
    let ((), rest) ← expectOperator l ")" rest
    return ([w], rest)
  | tokens => complainExpecting (some (inQuotes ")")) line tokens

/-- The words of a loop may end here. -/
def isSeparator (t : Token) : Bool := t.lexeme = .newline || t.lexeme = .operator ";"

/-- The lexemes without the separator in front. -/
def skipSeparator : List Token → List Token
  | ⟨_, .operator ";"⟩ :: rest => skipNewlines rest
  | tokens => skipNewlines tokens

mutual

/-- Reads commands up to something that no command starts with. A lone line is read if asked for. -/
def list (fuel line : Nat) (oneLine : Bool) (tokens : List Token) : Except Fault (Rest Command) :=
  match fuel with
  | 0 => complain line tokens
  | fuel + 1 => do
    let tokens := if oneLine then tokens else skipNewlines tokens
    if tokens.isEmpty then return (.nothing, [])
    let (first, rest) ← andOr fuel line tokens
    match rest with
    | ⟨l, .operator ";"⟩ :: rest => listRest fuel l oneLine first rest
    | ⟨l, .operator "&"⟩ :: rest => listRest fuel l oneLine (.background first) rest
    | ⟨l, .newline⟩ :: rest =>
      if oneLine then .ok (first, ⟨l, .newline⟩ :: rest) else listRest fuel l oneLine first rest
    | rest => .ok (first, rest)

/-- Reads more commands, if there are any. -/
def listRest (fuel line : Nat) (oneLine : Bool) (first : Command) (tokens : List Token) :
    Except Fault (Rest Command) :=
  match fuel with
  | 0 => complain line tokens
  | fuel + 1 => do
    let tokens := if oneLine then tokens else skipNewlines tokens
    match tokens with
    | [] => .ok (first, [])
    | t :: _ =>
      if t.lexeme = .newline ∨ t.lexeme = .operator ")" ∨ t.lexeme = .operator ";;" ∨
          (reserved? t.lexeme).any ["then", "elif", "else", "fi", "do", "done", "\x7d",
            "esac"].contains then
        .ok (first, tokens)
      else
        let (more, rest) ← list fuel line oneLine tokens
        .ok (.sequence first more, rest)

/-- Reads pipelines that depend on each other. -/
def andOr (fuel line : Nat) (tokens : List Token) : Except Fault (Rest Command) :=
  match fuel with
  | 0 => complain line tokens
  | fuel + 1 => do
    let (first, rest) ← pipeline fuel line tokens
    andOrRest fuel line first rest

/-- Reads more pipelines that depend on what stands before them. -/
def andOrRest (fuel line : Nat) (first : Command) (tokens : List Token) : Except Fault (Rest Command) :=
  match fuel with
  | 0 => complain line tokens
  | fuel + 1 =>
    match tokens with
    | ⟨l, .operator "&&"⟩ :: rest => do
      let (next, rest) ← pipeline fuel l (skipNewlines rest)
      andOrRest fuel l (.and first next) rest
    | ⟨l, .operator "||"⟩ :: rest => do
      let (next, rest) ← pipeline fuel l (skipNewlines rest)
      andOrRest fuel l (.or first next) rest
    | rest => .ok (first, rest)

/-- Reads a pipeline. -/
def pipeline (fuel line : Nat) (tokens : List Token) : Except Fault (Rest Command) :=
  match fuel with
  | 0 => complain line tokens
  | fuel + 1 =>
    match tokens with
    | t :: rest =>
      if reserved? t.lexeme = some "!" then do
        let (inner, rest) ← pipeline fuel t.line rest
        return (.negate inner, rest)
      else pipes fuel line tokens
    | [] => complain line []

/-- Reads commands with pipes between them. -/
def pipes (fuel line : Nat) (tokens : List Token) : Except Fault (Rest Command) :=
  match fuel with
  | 0 => complain line tokens
  | fuel + 1 => do
    let (first, rest) ← command fuel line tokens
    match rest with
    | ⟨l, .operator "|"⟩ :: rest =>
      let (next, rest) ← pipes fuel l (skipNewlines rest)
      return (.pipe first next, rest)
    | rest => return (first, rest)

/-- Reads one command. -/
def command (fuel line : Nat) (tokens : List Token) : Except Fault (Rest Command) :=
  match fuel with
  | 0 => complain line tokens
  | fuel + 1 =>
    match tokens with
    | [] => complain line []
    | ⟨l, .operator "("⟩ :: rest => do
      let (body, rest) ← list fuel l false rest
      let ((), rest) ← expectOperator l ")" (skipNewlines rest)
      withRedirections l (.subshell body) rest
    | ⟨l, lexeme⟩ :: rest =>
      match reserved? lexeme with
      | some "\x7b" => do
        let (body, rest) ← list fuel l false rest
        let ((), rest) ← expectWord l "\x7d" rest
        withRedirections l body rest
      | some "if" => do
        let (body, rest) ← branches fuel l rest
        withRedirections l body rest
      | some "while" => do
        let (body, rest) ← loop fuel l false rest
        withRedirections l body rest
      | some "until" => do
        let (body, rest) ← loop fuel l true rest
        withRedirections l body rest
      | some "for" => do
        let (body, rest) ← each fuel l rest
        withRedirections l body rest
      | some "case" => do
        let (body, rest) ← choice fuel l rest
        withRedirections l body rest
      | some "in" => simpleCommand l tokens
      | some _ => complain l tokens
      | none =>
        match lexeme, rest with
        | .word w, ⟨_, .operator "("⟩ :: rest => definition fuel l w rest
        | _, _ => simpleCommand l tokens

/-- Reads the definition of a function behind its name and a bracket. -/
def definition (fuel line : Nat) (name : Word) (tokens : List Token) : Except Fault (Rest Command) :=
  match fuel with
  | 0 => complain line tokens
  | fuel + 1 =>
    match tokens with
    | ⟨l, .word _⟩ :: _ => .error (l, .unexpected "word" (some (inQuotes ")")))
    | _ => do
      let ((), rest) ← expectOperator line ")" tokens
      match (bare? name).filter Lexeme.isName with
      | none => throw (line, .badFunctionName)
      | some name =>
        let (body, rest) ← command fuel line (skipNewlines rest)
        return (.define name body, rest)

/-- Reads a simple command. -/
def simpleCommand (line : Nat) (tokens : List Token) : Except Fault (Rest Command) := do
  let (p, rest) ← simple line ⟨[], [], []⟩ tokens
  if p.assignments.isEmpty && p.words.isEmpty && p.redirections.isEmpty then complain line rest
  else return (.simple line p.assignments p.words p.redirections, rest)

/-- Reads the redirections of a compound command. -/
def withRedirections (line : Nat) (body : Command) (tokens : List Token) : Except Fault (Rest Command) := do
  let (rs, rest) ← redirections line tokens
  return (if rs.isEmpty then body else .redirected line body rs, rest)

/-- Reads a condition and what depends on it. -/
def branches (fuel line : Nat) (tokens : List Token) : Except Fault (Rest Command) :=
  match fuel with
  | 0 => complain line tokens
  | fuel + 1 => do
    let (condition, rest) ← list fuel line false tokens
    let ((), rest) ← expectWord line "then" rest
    let (consequent, rest) ← list fuel line false rest
    match skipNewlines rest with
    | t :: rest =>
      match reserved? t.lexeme with
      | some "fi" => return (.conditional condition consequent .nothing, rest)
      | some "else" =>
        let (alternative, rest) ← list fuel t.line false rest
        let ((), rest) ← expectWord t.line "fi" rest
        return (.conditional condition consequent alternative, rest)
      | some "elif" =>
        let (alternative, rest) ← branches fuel t.line rest
        return (.conditional condition consequent alternative, rest)
      | _ => complainExpecting (some (inQuotes "fi")) line (t :: rest)
    | [] => complainExpecting (some (inQuotes "fi")) line []

/-- Reads a choice between patterns. -/
def choice (fuel line : Nat) (tokens : List Token) : Except Fault (Rest Command) :=
  match fuel with
  | 0 => complain line tokens
  | fuel + 1 =>
    match tokens with
    | ⟨l, .word w⟩ :: rest => do
      let ((), rest) ← expectWord l "in" rest
      let (cases, rest) ← cases fuel l rest
      return (.choice w cases, rest)
    | tokens => complainExpecting (some "word") line tokens

/-- Reads the cases of a choice and the word that ends them. -/
def cases (fuel line : Nat) (tokens : List Token) :
    Except Fault (Rest (List (List Word × Command))) :=
  match fuel with
  | 0 => complain line tokens
  | fuel + 1 =>
    match skipNewlines tokens with
    | t :: rest =>
      if reserved? t.lexeme = some "esac" then .ok ([], rest)
      else do
        let rest := if t.lexeme = .operator "(" then rest else t :: rest
        let (patterns, rest) ← patterns line rest
        let (body, rest) ← caseBody fuel line rest
        let (more, rest) ← cases fuel line rest
        return ((patterns, body) :: more, rest)
    | [] => complainExpecting (some (inQuotes ")")) line []

/-- Reads the commands of a case and what ends them, unless that ends the choice. -/
def caseBody (fuel line : Nat) (tokens : List Token) : Except Fault (Rest Command) :=
  match fuel with
  | 0 => complain line tokens
  | fuel + 1 => do
    let (body, rest) ←
      match skipNewlines tokens with
      | t :: rest =>
        if t.lexeme = .operator ";;" ∨ reserved? t.lexeme = some "esac" then
          pure (Command.nothing, t :: rest)
        else list fuel line false (t :: rest)
      | [] => pure (Command.nothing, [])
    match skipNewlines rest with
    | t :: rest =>
      if t.lexeme = .operator ";;" then return (body, rest)
      else if reserved? t.lexeme = some "esac" then return (body, t :: rest)
      else complainExpecting (some (inQuotes ";;")) line (t :: rest)
    | [] => complainExpecting (some (inQuotes ";;")) line []

/-- Reads a loop with a condition. -/
def loop (fuel line : Nat) (untilTrue : Bool) (tokens : List Token) : Except Fault (Rest Command) :=
  match fuel with
  | 0 => complain line tokens
  | fuel + 1 => do
    let (condition, rest) ← list fuel line false tokens
    let (body, rest) ← doneBody fuel line rest
    return (.loop untilTrue condition body, rest)

/-- Reads the body of a loop. -/
def doneBody (fuel line : Nat) (tokens : List Token) : Except Fault (Rest Command) :=
  match fuel with
  | 0 => complain line tokens
  | fuel + 1 => do
    let ((), rest) ← expectWord line "do" tokens
    let (body, rest) ← list fuel line false rest
    let ((), rest) ← expectWord line "done" rest
    return (body, rest)

/-- Reads a loop over words. -/
def each (fuel line : Nat) (tokens : List Token) : Except Fault (Rest Command) :=
  match fuel with
  | 0 => complain line tokens
  | fuel + 1 =>
    match tokens with
    | ⟨l, .word w⟩ :: rest =>
      match (bare? w).filter Lexeme.isName with
      | none => .error (l, .badLoopVariable)
      | some name =>
        match skipNewlines rest with
        | t :: after =>
          if reserved? t.lexeme = some "in" then do
            let (words, rest) := wordsOfLine after
            if !rest.head?.any isSeparator then complain l rest
            else
              let (body, rest) ← doneBody fuel l (skipSeparator rest)
              return (.each name (some words) body, rest)
          else do
            let (body, rest) ← doneBody fuel l (skipSeparator rest)
            return (.each name none body, rest)
        | [] => complainExpecting (some (inQuotes "do")) l []
    | _ => .error (line, .badLoopVariable)

end

/-- Reads the commands of one line, if there are any, and the lexemes of the next lines. -/
def nextLine (tokens : List Token) : Option (Except Fault (Rest Command)) :=
  match skipNewlines tokens with
  | [] => none
  | t :: rest =>
    let fuel := 16 * (rest.length + 8)
    match list fuel t.line true (t :: rest) with
    | .error e => some (.error e)
    | .ok (c, []) => some (.ok (c, []))
    | .ok (c, ⟨l, .newline⟩ :: rest) => some (.ok (c, ⟨l, .newline⟩ :: rest))
    | .ok (_, rest) => some (complain t.line rest)

end SoakRig.Shell.Reader
