import SoakRig.Shell.Builtin
import SoakRig.Shell.Reader

/-!
# Running shell scripts

What commands do to a session. Commands may be nested only so deep and loops may turn only so often;
a script that goes beyond that stands still, as does one that waits past the deadline. Everything
but the last definitions is written in terms of how the commands inside a command are run.
-/

namespace SoakRig.Shell

/-- Where programs are looked for. -/
def searchPath (s : Session) : List String :=
  match s.valueOf? "PATH" with
  | some path => Text.piecesOf ':' path
  | none => ["/usr/bin", "/bin"]

/-- The program at a path, or why there is none. -/
def programAt (s : Session) (path : String) : Except SystemError String :=
  match s.files.resolve (Session.path path) with
  | .ok place =>
    match s.files.node? place with
    | some (.program p) => .ok p
    | _ => .error .permissionDenied
  | .error e => .error e

/-- The path and the program that a name leads to, or why there is none. -/
def findProgram (s : Session) (name : String) : Except SystemError (String × String) :=
  if name.toList.contains '/' then (programAt s name).map fun p => (name, p)
  else
    let found := (searchPath s).filterMap fun dir =>
      let path := Session.joined dir name
      (programAt s path).toOption.map fun p => (path, p)
    match found with
    | p :: _ => .ok p
    | [] => .error .notFound

/-- How the commands inside a command are run. A tested command may fail; the last one takes the place
of the shell. -/
abbrev Exec := (tested last : Bool) → Command → Session → Session

/-- The first failure that is not tested ends a strict shell. -/
def strictly (tested : Bool) (s : Session) : Session :=
  if s.options.strict && !tested && s.running && s.status ≠ 0 then
    { s with flow := .exited s.status }
  else s

/-- Runs the lines of a script. -/
def lines (exec : Exec) (tested last : Bool) : (fuel : Nat) → List Token → Session → Session
  | 0, _, s => s
  | fuel + 1, tokens, s =>
    if !s.running then s
    else
      match Reader.nextLine tokens with
      | none => s
      | some (.error (line, fault)) => { s with line }.abort fault.message
      | some (.ok (c, rest)) =>
        let isLast := last && (Reader.skipNewlines rest).isEmpty
        lines exec tested last fuel rest (exec tested isLast c s)

/-- Runs a script line by line. -/
def script (exec : Exec) (tested last : Bool) (text : String) (s : Session) : Session :=
  let tokens := Lexeme.ofText text.toList
  lines exec tested last (tokens.length + 1) tokens s

/-- Runs a script that is read inside another one. -/
def nested (exec : Exec) (tested : Bool) (within : Option String) (text : String) (s : Session) :
    Session :=
  { script exec tested false text { s with within } with line := s.line, within := s.within }

/-- Runs the script for a signal, which leaves the status as it was. -/
def answer (exec : Exec) (action : String) (s : Session) : Session :=
  { nested exec false none action s with status := s.status }

/-- Answers the signals that were sent to the main shell, one after another. -/
def answerAll (exec : Exec) : List Nat → Session → Session
  | [], s => s
  | signal :: more, s =>
    if !s.running then s
    else
      match (s.mainTraps.find? (·.1 = signal)).filter fun _ => Signal.isCatchable signal with
      | some (_, action) => answerAll exec more (answer exec action s)
      | none =>
        match Signal.effect signal with
        | .none => answerAll exec more s
        | .stops => s.stick
        | .dies => { s with flow := .killed signal }

/-- The main shell attends to the signals that have come in. -/
def attend (exec : Exec) (s : Session) : Session :=
  if s.forked || s.caught.isEmpty then s else answerAll exec s.caught { s with caught := [] }

/-- What a shell does when it ends of its own accord: it runs the script for that. -/
def conclude (exec : Exec) (s : Session) : Session :=
  match s.traps.find? (·.1 = 0), s.flow with
  | none, _ => s
  | _, .killed _ => s
  | _, .stuck => s
  | some (_, action), _ =>
    let code := s.finalStatus
    let s := nested exec false none action
      { s with status := code, flow := .running, traps := s.traps.filter (·.1 ≠ 0) }
    if s.running then { s with flow := .exited code } else s

/-- Runs something in a copy of the shell. -/
def inCopy (exec : Exec) (f : Session → Session) (s : Session) : Session := conclude exec (f s.fork)

/-- Keeps what a shell that has ended leaves to the one that waited for it. -/
def afterChild (parent child : Session) : Session :=
  let s := parent.join child
  match child.flow with
  | .stuck => s.stick
  | .killed signal =>
    { (s.waitUntil child.time).print 2 (Signal.obituary signal) with status := child.finalStatus }
  | _ => { s.waitUntil child.time with status := child.finalStatus }

/-- The same if the child may have taken the place of its parent. -/
def afterLast (last : Bool) (parent child : Session) : Session :=
  match child.flow with
  | .killed _ =>
    if last && parent.traps.isEmpty then
      { (parent.join child).waitUntil child.time with flow := child.flow }
    else afterChild parent child
  | _ => afterChild parent child

/-- Runs a script for its output, without the line ends at the end of it. -/
def substitute (exec : Exec) (text : String) (s : Session) : String × Session :=
  let (s, n) := s.newBuffer .empty
  let child := inCopy exec (script exec false true text) (s.lead 1 (some (.buffer n)))
  let bytes := ((child.buffers[n]?.map (·.pieces)).getD []).flatMap (·.2)
  let kept := (bytes.filter (· ≠ 0)).reverse.dropWhile (· = 10) |>.reverse
  (Session.ofBytes kept, { afterChild s child with descriptors := s.descriptors })

/-- The options and the rest of the arguments of a shell. -/
structure Invocation where
  options : Options
  /-- The script is an argument. -/
  isCommand : Bool
  /-- The script is what is read. -/
  isInput : Bool
  rest : List String

namespace Invocation

/-- Reads the arguments of a shell. -/
def ofArgs (i : Invocation) : List String → Except String Invocation
  | [] => .ok i
  | "-o" :: name :: args => do
    ofArgs { i with options := ← Builtin.turnNamed true name i.options } args
  | "+o" :: name :: args => do
    ofArgs { i with options := ← Builtin.turnNamed false name i.options } args
  | arg :: args =>
    match arg.toList with
    | ['-'] => .ok { i with rest := args }
    | ['-', '-'] => .ok { i with rest := args }
    | '-' :: letters => do
      let plain := letters.filter (· ≠ 'c')
      let options ← Builtin.turnLetters true plain i.options
      ofArgs { i with
        options
        isCommand := i.isCommand || letters.contains 'c'
        isInput := i.isInput || letters.contains 's' } args
    | '+' :: letters => do
      ofArgs { i with options := ← Builtin.turnLetters false letters i.options } args
    | _ => .ok { i with rest := arg :: args }

end Invocation

/-- What a new shell starts with: what programs get to see, and nothing else of the shell that it is
started from but the signals it ignores. -/
def newborn (name : String) (s : Session) : Session :=
  let ignored := s.traps.filter fun t => t.2 = "" && t.1 ≠ 0
  { Session.fresh s.files s.deadline name with
    writes := s.writes
    held := s.held
    buffers := s.buffers
    time := s.time
    descriptors := s.descriptors
    bindings := s.bindings.filter fun v => s.exported.contains v.1 && v.1 ≠ "IFS"
    exported := s.exported
    nextJob := s.nextJob
    self := s.self
    traps := ignored
    mainTraps := ignored }

/-- Runs the script that a shell is asked for. -/
def runInvocation (exec : Exec) (i : Invocation) (s : Session) : Session :=
  let s := { s with options := i.options }
  match i.isCommand, i.rest with
  | true, [] => { s with line := 0 }.abort "-c requires an argument"
  | true, text :: rest =>
    script exec false true text { s with name := rest.headD s.name, args := rest.tail }
  | false, rest =>
    match if i.isInput then none else rest.head? with
    | none =>
      let input := s.input 0
      script exec false true (Session.ofBytes input.bytes) ({ s with args := rest }.waitUntil input.time)
    | some path =>
      match s.files.read (Session.path path) with
      | .ok bytes =>
        script exec false true (Session.ofBytes bytes) { s with name := path, args := rest.tail }
      | .error e =>
        { s with line := 0 }.abort
          ("cannot open " ++ path ++ ": " ++ Redirection.reason "No such file" e)

/-- Runs a shell with its arguments. -/
def shell (exec : Exec) (name : String) (args : List String) (s : Session) : Session :=
  let s := newborn name s
  let s :=
    match Invocation.ofArgs ⟨.none, false, false, []⟩ args with
    | .error e => { s with line := 0 }.abort e
    | .ok i => conclude exec (runInvocation exec i s)
  { s with caught := [] }

/-- Starts a program and waits for it. -/
def external (exec : Exec) (last : Bool) (name : String) (args : List String) (s : Session) :
    Session :=
  if name = "" then s.refuse 127 ": Permission denied"
  else
    match findProgram s name with
    | .error e =>
      s.refuse (if e = .permissionDenied then 126 else 127)
        (name ++ ": " ++ Redirection.reason "not found" e)
    | .ok (_, program) =>
      match Tools.run? program s args with
      | some s' => s'
      | none => afterLast last s (shell exec name args s)

/-- Sets a variable back to what it was. -/
def putBack (s : Session) (old : String × Option String) : Session :=
  match old.2 with
  | some value =>
    { s with bindings := s.bindings.filter (·.1 ≠ old.1) ++ [(old.1, value)] }
  | none => s.unsetVariable old.1

/-- Calls a function. -/
def call (exec : Exec) (tested : Bool) (body : Command) (args : List String) (s : Session) :
    Session :=
  let after := exec tested false body { s with args, loops := 0, locals := some [] }
  let after := (after.locals.getD []).foldl putBack after
  let after := { after with args := s.args, loops := s.loops, locals := s.locals }
  if after.flow = .returning then { after with flow := .running } else after

/-- Reads a script in. -/
def readIn (exec : Exec) (tested : Bool) (args : List String) (s : Session) : Session :=
  match args with
  | [] => { s with status := 0 }
  | path :: _ =>
    let places := if path.toList.contains '/' then [path]
      else (searchPath s).map fun dir => Session.joined dir path
    let found := places.filterMap fun place =>
      match s.files.read (Session.path place) with
      | .ok bytes => some (place, bytes)
      | .error .isADirectory => some (place, [])
      | .error _ => none
    match found, places with
    | (place, bytes) :: _, _ =>
      let after := nested exec tested (some place) (Session.ofBytes bytes) { s with status := 0 }
      if after.flow = .returning then { after with flow := .running } else after
    | [], [_] =>
      match s.files.read (Session.path path) with
      | .error e => s.abort ("cannot open " ++ path ++ ": " ++ Redirection.reason "No such file" e)
      | .ok _ => s
    | [], _ => s.abort (path ++ ": not found")

/-- What a name stands for among commands, in short or in words. -/
def describeCommand (inWords : Bool) (s : Session) (name : String) : Session :=
  let tell (short long : String) : Session :=
    s.print 1 ((if inWords then name ++ " is " ++ long else short) ++ "\n")
  if Reader.reserved.contains name then tell name "a shell keyword"
  else if s.functions.any (·.1 = name) then tell name "a shell function"
  else if Builtin.special.contains name then tell name "a special shell builtin"
  else if Builtin.ordinary.contains name then tell name "a shell builtin"
  else
    match findProgram s name with
    | .ok (path, _) => tell path path
    | .error _ =>
      { (if inWords then s.print 1 (name ++ ": not found\n") else s) with status := 127 }

/-- What names stand for among commands. -/
def describeCommands (inWords : Bool) (names : List String) (s : Session) : Session :=
  names.foldl (describeCommand inWords) { s with status := 0 }

/-- Takes the place of the shell, which leaves no script to be run at the end. -/
def replace (exec : Exec) (args : List String) (s : Session) : Session :=
  match args with
  | [] => { s with status := 0 }
  | name :: args =>
    let s := external exec true name args { s with traps := [] }
    if s.running then { s with flow := .exited s.status } else s

/-- A misused command that cannot change the shell does not end it either. -/
def contain (name : String) (before after : Session) : Session :=
  match after.flow with
  | .exited code =>
    if Builtin.special.contains name ∨ name = "command" then after
    else { after with flow := before.flow, status := code }
  | _ => after

/-- Performs a command of the shell. -/
def builtin (exec : Exec) (tested last : Bool) (name : String) (args : List String) (s : Session) :
    Session :=
  match name, args with
  | "eval", args => nested exec tested (some "eval") (String.intercalate " " args) { s with status := 0 }
  | ".", args => readIn exec tested args s
  | "exec", args => replace exec args s
  | "type", args => describeCommands true args s
  | "command", "-v" :: names => describeCommands false (names.take 1) s
  | "command", "-V" :: names => describeCommands true (names.take 1) s
  | "command", [] => { s with status := 0 }
  | "command", name :: args =>
    match Builtin.run? name { s with within := some name } args with
    | some s' => if name = "exit" then s' else contain "" s s'
    | none => external exec last name args { s with within := none }
  | _, _ => (Builtin.run? name s args).getD s

/-- Invokes a command by its name. -/
def invoke (exec : Exec) (tested last : Bool) (name : String) (args : List String) (s : Session) :
    Session :=
  match s.functions.find? (·.1 = name) with
  | some (_, body) => call exec tested body args s
  | none =>
    if Builtin.isBuiltin name then
      let after := builtin exec tested last name args { s with within := some name }
      { contain name s after with within := s.within }
    else external exec last name args s

/-- Sets variables to what words become; gives what was set in the order it was. -/
def assign (exec : Exec) : List (String × Word) → Session → List (String × String) × Session
  | [], s => ([], s)
  | (name, word) :: more, s =>
    if !s.running then ([], s)
    else
      let (value, s) := Expansion.single (substitute exec) word s
      let s := if s.running then s.setVariable name value else s
      let (rest, s) := assign exec more s
      ((name, value) :: rest, s)

/-- What a command that was invoked by name leaves of the variables and descriptors set for it. -/
def restore (before after : Session) (name : String) (assigned : List String) : Session :=
  let after :=
    if Builtin.special.contains name ∧ !before.functions.any (·.1 = name) then after
    else
      let after := assigned.foldl (fun s n => putBack s (n, before.valueOf? n)) after
      if assigned.isEmpty then after
      else { after with exported := after.exported.filter fun n =>
        !assigned.contains n || before.exported.contains n }
  if name = "exec" then after else { after with descriptors := before.descriptors }

/-- Tells of a command before it runs, on the descriptors of the shell itself. -/
def trace (before : Session) (assigned : List (String × String)) (words : List String)
    (s : Session) : Session :=
  if s.options.traced then
    let text := String.intercalate " " (assigned.map (fun a => a.1 ++ "=" ++ a.2) ++ words)
    let told := { s with descriptors := before.descriptors }.print 2 ("+ " ++ text ++ "\n")
    { told with descriptors := s.descriptors }
  else s

/-- Runs a simple command. -/
def simple (exec : Exec) (tested last : Bool) (line : Nat) (assignments : List (String × Word))
    (words : List Word) (redirections : List Redirection) (s : Session) : Session :=
  let s := { s with line }
  let (args, s) := Expansion.allFields (substitute exec) words
    (if words.isEmpty then { s with status := 0 } else s)
  if !s.running then s
  else
    let isSpecial := Builtin.special.contains (args.headD "")
    match Redirection.followAll (substitute exec) redirections s with
    | (some refusal, s') =>
      let s' := { s' with descriptors := s.descriptors }
      if isSpecial then s'.abort refusal else strictly tested (s'.refuse 2 refusal)
    | (none, s') =>
      let (assigned, s') := assign exec assignments s'
      if !s'.running then { s' with descriptors := s.descriptors }
      else
        let s' := trace s assigned args s'
        match args with
        | [] => strictly tested { s' with descriptors := s.descriptors }
        | name :: args =>
          let names := assigned.map (·.1)
          let after := invoke exec tested last name args { s' with exported := names ++ s'.exported }
          strictly tested (restore s after name names)

/-- What is still open once a program in the background has followed its redirections. -/
def heldBy (exec : Exec) (c : Command) (s : Session) : Session :=
  match c with
  | .simple _ _ _ redirections => (Redirection.followAll (substitute exec) redirections s).2
  | .redirected _ _ redirections => (Redirection.followAll (substitute exec) redirections s).2
  | _ => s

/-- Runs a command in the background. -/
def background (exec : Exec) (inner : Command) (s : Session) : Session :=
  let number := s.nextJob
  let copy := { s.lead 0 (some .null) with nextJob := number + 1, self := number }
  let child := inCopy exec (exec false true inner) copy
  let signal :=
    match child.flow with
    | .killed n => some n
    | _ => none
  let job : Job := {
    number, signal, finish := child.time, status := child.finalStatus
    holds := (heldBy exec inner s).holdsCommon }
  { s.join child with jobs := job :: s.jobs, lastJob := number, status := 0 }

/-- Runs two commands with a pipe between them. Whoever writes to it forever ends with its reader. -/
def pipe (exec : Exec) (tested : Bool) (left right : Command) (s : Session) : Session :=
  let (s, n) := s.newBuffer .empty
  let first := inCopy exec (exec tested true left) (s.lead 1 (some (.buffer n)))
  let endless := (first.buffers[n]?.bind (·.endless)).isSome
  let s := (s.join first).modifyBuffer n fun b => { b with closed := first.time }
  let second := inCopy exec (exec tested true right) (s.lead 0 (some (.buffer n)))
  let s := { afterChild s second with descriptors := s.descriptors }
  if endless || !s.running then s
  else
    let s := s.waitUntil (max s.time first.time)
    match first.flow with
    | .killed signal => s.print 2 (Signal.obituary signal)
    | _ => s

/-- Runs a command in a shell of its own. -/
def subshell (exec : Exec) (tested last : Bool) (body : Command) (s : Session) : Session :=
  strictly tested (afterLast last s (inCopy exec (exec tested true body) s))

/-- Runs a compound command with redirections. -/
def redirected (exec : Exec) (tested : Bool) (line : Nat) (body : Command)
    (redirections : List Redirection) (s : Session) : Session :=
  let s := { s with line }
  match Redirection.followAll (substitute exec) redirections s with
  | (some refusal, s') =>
    strictly tested ({ s' with descriptors := s.descriptors }.refuse 2 refusal)
  | (none, s') => { exec tested false body s' with descriptors := s.descriptors }

/-- The session after the body of a loop, and whether the loop goes on. -/
def afterBody (s : Session) : Session × Bool :=
  match s.flow with
  | .running => (s, true)
  | .breaking (n + 2) => ({ s with flow := .breaking (n + 1) }, false)
  | .breaking _ => ({ s with flow := .running, status := 0 }, false)
  | .continuing (n + 2) => ({ s with flow := .continuing (n + 1) }, false)
  | .continuing _ => ({ s with flow := .running, status := 0 }, true)
  | _ => (s, false)

/-- The turns of a loop, at most so many. The status is that of the body in the turn before. -/
def turn (exec : Exec) (tested untilTrue : Bool) (condition body : Command) :
    (limit status : Nat) → Session → Session
  | 0, _, s => s.stick
  | limit + 1, status, s =>
    let s := exec true false condition s
    if !s.running then
      match s.flow with
      | .breaking _ => (afterBody s).1
      | .continuing _ =>
        let (s, goesOn) := afterBody s
        if goesOn then turn exec tested untilTrue condition body limit s.status s else s
      | _ => s
    else if (s.status = 0) = untilTrue then { s with status }
    else
      let (s, goesOn) := afterBody (exec tested false body s)
      if goesOn then turn exec tested untilTrue condition body limit s.status s else s

/-- Runs something as a loop. -/
def inLoop (f : Session → Session) (s : Session) : Session :=
  { f { s with loops := s.loops + 1 } with loops := s.loops }

/-- The turns of a loop over values. -/
def turns (exec : Exec) (tested : Bool) (name : String) (body : Command) :
    (values : List String) → Session → Session
  | [], s => s
  | v :: vs, s =>
    let s := s.setVariable name v
    if !s.running then s
    else
      let (s, goesOn) := afterBody (exec tested false body s)
      if goesOn then turns exec tested name body vs s else s

/-- Runs a loop over words or over the arguments. -/
def each (exec : Exec) (tested : Bool) (name : String) (words : Option (List Word))
    (body : Command) (s : Session) : Session :=
  let (values, s) :=
    match words with
    | some ws => Expansion.allFields (substitute exec) ws s
    | none => (s.args, s)
  if !s.running then s
  else inLoop (turns exec tested name body values) { s with status := 0 }

/-- One of some patterns stands for the text. Patterns are expanded until one does. -/
def anyMatch (exec : Exec) (text : String) : List Word → Session → Bool × Session
  | [], s => (false, s)
  | w :: ws, s =>
    let (pattern, s) := Expansion.pattern (substitute exec) w s
    if !s.running then (false, s)
    else if Pattern.isMatch pattern text.toList then (true, s)
    else anyMatch exec text ws s

/-- Runs the first of some commands that has a pattern for the text. -/
def firstMatch (exec : Exec) (tested last : Bool) (text : String) :
    List (List Word × Command) → Session → Session
  | [], s => s
  | (patterns, body) :: more, s =>
    let (found, s) := anyMatch exec text patterns s
    if !s.running then s
    else if found then exec tested last body s
    else firstMatch exec tested last text more s

/-- Chooses between commands. -/
def choose (exec : Exec) (tested last : Bool) (word : Word) (cases : List (List Word × Command))
    (s : Session) : Session :=
  let (text, s) := Expansion.single (substitute exec) word s
  if !s.running then s else firstMatch exec tested last text cases { s with status := 0 }

/-- How often a loop may turn. -/
def turnLimit : Nat := 20000

/-- How deep commands may be nested. -/
def depthLimit : Nat := 2000

/-- Runs a command whose inner commands may be nested so deep. -/
def execUpTo : (depth : Nat) → Exec
  | 0, _, _, _, s => s.stick
  | depth + 1, tested, last, c, s =>
    let exec : Exec := fun tested last c s => execUpTo depth tested last c s
    if !s.running || s.options.idle then s
    else
      attend exec <|
        match c with
        | .nothing => { s with status := 0 }
        | .simple line assignments words redirections =>
          simple exec tested last line assignments words redirections s
        | .pipe left right => strictly tested (pipe exec tested left right s)
        | .negate inner =>
          let s := exec true false inner s
          if s.running then { s with status := if s.status = 0 then 1 else 0 } else s
        | .and left right =>
          let s := exec true false left s
          if s.running && s.status = 0 then exec tested last right s else s
        | .or left right =>
          let s := exec true false left s
          if s.running && s.status ≠ 0 then exec tested last right s else s
        | .sequence left right => exec tested last right (exec tested false left s)
        | .background inner => background exec inner s
        | .subshell body => subshell exec tested last body s
        | .redirected line body redirections => redirected exec tested line body redirections s
        | .conditional condition consequent alternative =>
          let s := exec true false condition s
          if !s.running then s
          else exec tested last (if s.status = 0 then consequent else alternative) s
        | .loop untilTrue condition body =>
          inLoop (turn exec tested untilTrue condition body turnLimit 0) s
        | .each name words body => each exec tested name words body s
        | .choice word cases => choose exec tested last word cases s
        | .define name body =>
          { s with functions := (name, body) :: s.functions.filter (·.1 ≠ name), status := 0 }

/-- Runs a command. -/
def exec : Exec := execUpTo depthLimit

end SoakRig.Shell
