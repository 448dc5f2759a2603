import SoakRig.Shell.Expansion
import SoakRig.Shell.Redirection
import SoakRig.Shell.Signal
import SoakRig.Shell.Tools

/-!
# Commands of the shell

The commands that the shell performs itself and that need no script to be run. A misused command
ends the shell if it is one of those that can change the shell, and else only fails.
-/

namespace SoakRig.Shell.Builtin

/-- The commands that can change the shell. -/
def special : List String := [
  ":", ".", "break", "continue", "eval", "exec", "exit", "export", "local", "readonly", "return",
  "set", "shift", "times", "trap", "unset"]

/-- The other commands that the shell performs itself. -/
def ordinary : List String := [
  "[", "cd", "command", "echo", "false", "jobs", "kill", "printf", "pwd", "read", "test", "true",
  "type", "ulimit", "umask", "wait"]

/-- The command is performed by the shell. -/
def isBuiltin (name : String) : Bool := special.contains name || ordinary.contains name

/-- The highest number that commands take. -/
def highest : Nat := twoTo 31 - 1

/-- The number that a command is given. -/
def number? (text : String) : Option Nat := (Decimal.natural? text.toList).filter (· ≤ highest)

/-- Goes on with a number that a command is given. -/
def withNumber (s : Session) (text : String) (f : Nat → Session) : Session :=
  match number? text with
  | some n => f n
  | none => s.abort ("Illegal number: " ++ text)

/-- Ends the shell. -/
def exit (s : Session) : List String → Session
  | [] => { s with flow := .exited s.status }
  | text :: _ => withNumber s text fun n => { s with flow := .exited (n % 256) }

/-- Leaves a function or a script that is read in. -/
def leave (s : Session) : List String → Session
  | [] => { s with flow := .returning }
  | text :: _ => withNumber s text fun n => { s with status := n, flow := .returning }

/-- Leaves loops, or starts their next turn. -/
def leaveLoops (make : Nat → Flow) (s : Session) (args : List String) : Session :=
  let text := args.headD "1"
  withNumber s text fun n =>
    if n = 0 then s.abort ("Illegal number: " ++ text)
    else
      { s with status := 0, flow := if s.loops = 0 then s.flow else make (min n s.loops) }

/-- Drops arguments. -/
def shift (s : Session) (args : List String) : Session :=
  withNumber s (args.headD "1") fun n =>
    if s.args.length < n then s.abort "can't shift that many"
    else { s with args := s.args.drop n, status := 0 }

/-- The name and the value in an assignment. -/
def splitAssignment (text : String) : String × Option String :=
  let (name, rest) := text.toList.span (· ≠ '=')
  (String.ofList name, rest.head?.map fun _ => String.ofList rest.tail)

/-- Goes through assignments until one has a bad name or the shell stops. -/
def assignAll (f : Session → String → Option String → Session) : List String → Session → Session
  | [], s => s
  | text :: more, s =>
    if !s.running then s
    else
      let (name, value) := splitAssignment text
      if Lexeme.isName name then assignAll f more (f s name value)
      else s.abort (name ++ ": bad variable name")

/-- Sets a variable if there is a value for it. -/
def setIfGiven (s : Session) (name : String) : Option String → Session
  | some value => s.setVariable name value
  | none => s

/-- Some variables with their values, as commands that would set them. -/
def listing (s : Session) (command : String) (names : List String) : String :=
  let shown := (names.mergeSort fun a b => a ≤ b).eraseDups.map fun name =>
    let value :=
      match s.valueOf? name with
      | some v => "='" ++ v ++ "'"
      | none => ""
    command ++ " " ++ name ++ value ++ "\n"
  String.join shown

/-- Lets programs see variables. -/
def publish (s : Session) (args : List String) : Session :=
  match args.filter (· ≠ "-p") with
  | [] => { s.print 1 (listing s "export" s.exported) with status := 0 }
  | args =>
    assignAll (fun s name value => setIfGiven { s with exported := name :: s.exported } name value)
      args { s with status := 0 }

/-- Lets variables keep their values. -/
def fix (s : Session) (args : List String) : Session :=
  match args.filter (· ≠ "-p") with
  | [] => { s.print 1 (listing s "readonly" s.fixed) with status := 0 }
  | args =>
    assignAll
      (fun s name value =>
        let s := setIfGiven s name value
        { s with fixed := name :: s.fixed })
      args { s with status := 0 }

/-- Gives a function variables of its own. -/
def makeLocal (s : Session) (args : List String) : Session :=
  match s.locals with
  | none => s.abort "not in a function"
  | some _ =>
    assignAll
      (fun s name value =>
        setIfGiven { s with locals := s.locals.map ((name, s.valueOf? name) :: ·) } name value)
      args { s with status := 0 }

/-- Unsets variables or functions. -/
def unset (s : Session) (args : List String) : Session :=
  match args with
  | "-f" :: names =>
    { s with functions := s.functions.filter fun f => !names.contains f.1, status := 0 }
  | _ =>
    let names := if args.head? = some "-v" then args.tail else args
    names.foldl
      (fun s name =>
        if !s.running then s
        else if !Lexeme.isName name then s.abort (name ++ ": bad variable name")
        else if s.fixed.contains name then s.abort (name ++ ": is read only")
        else s.unsetVariable name)
      { s with status := 0 }

/-- The options that can be named, with their letters; some have no effect on scripts. -/
def optionNames : List (String × Char) := [
  ("errexit", 'e'), ("noexec", 'n'), ("nounset", 'u'), ("xtrace", 'x'), ("noglob", 'f'),
  ("ignoreeof", 'I'), ("interactive", 'i'), ("monitor", 'm'), ("stdin", 's'), ("verbose", 'v'),
  ("vi", 'V'), ("emacs", 'E'), ("noclobber", 'C'), ("allexport", 'a'), ("notify", 'b'),
  ("nolog", ' '), ("debug", ' ')]

/-- Why an option is refused. -/
def illegalOption (text : String) : String := "Illegal option -" ++ text

/-- Turns options on or off by their letters; an unknown letter is given back. -/
def turnLetters (on : Bool) : List Char → Options → Except String Options
  | [], o => .ok o
  | c :: cs, o =>
    if Options.letters.contains c then turnLetters on cs (o.turn on c)
    else .error (illegalOption (String.ofList [c]))

/-- Turns an option on or off by its name. -/
def turnNamed (on : Bool) (name : String) (o : Options) : Except String Options :=
  match optionNames.find? (·.1 = name) with
  | some (_, letter) => .ok (o.turn on letter)
  | none => .error (illegalOption ("o " ++ name))

/-- Reads options from the front of some words. What is left is none if no words followed. -/
def turnOptions : List String → Options → Except String (Options × Option (List String))
  | [], o => .ok (o, none)
  | "--" :: rest, o => .ok (o, some rest)
  | "-o" :: name :: rest, o => do turnOptions rest (← turnNamed true name o)
  | "+o" :: name :: rest, o => do turnOptions rest (← turnNamed false name o)
  | word :: rest, o =>
    match word.toList with
    | ['-'] => .ok ({ o with traced := false }, if rest = [] then none else some rest)
    | '-' :: letters => do turnOptions rest (← turnLetters true letters o)
    | '+' :: letters => do turnOptions rest (← turnLetters false letters o)
    | _ => .ok (o, some (word :: rest))

/-- Sets options and arguments. -/
def set (s : Session) (args : List String) : Session :=
  match turnOptions args s.options with
  | .error e => s.abort e
  | .ok (options, args) => { s with options, args := args.getD s.args, status := 0 }

/-- The path of a place. -/
def pathOf (l : Location) : String :=
  "/" ++ String.intercalate "/" (l.map Session.ofBytes)

/-- The path of the working directory. -/
def workingDirectory (s : Session) : String := pathOf s.files.here

/-- Goes to another directory. -/
def changeDirectory (s : Session) (args : List String) : Session :=
  let args := args.filter fun a => a ≠ "--" && a ≠ "-L" && a ≠ "-P"
  let back := args.head? = some "-"
  let path := if back then (s.valueOf? "OLDPWD").getD "" else args.headD ((s.valueOf? "HOME").getD "")
  let arrive (place : Location) : Session :=
    let old := workingDirectory s
    let s := { s with files := { s.files with here := place }, status := 0 }
    let s := (s.setVariable "OLDPWD" old).setVariable "PWD" (workingDirectory s)
    if back then s.print 1 (workingDirectory s ++ "\n") else s
  if path = "" then arrive s.files.here
  else
    match s.files.resolve (Session.path path) with
    | .ok place =>
      if s.files.node? place = some .directory then arrive place
      else s.refuse 2 ("can't cd to " ++ path)
    | .error _ => s.refuse 2 ("can't cd to " ++ path)

/-- Sets the scripts that are run on signals. -/
def trapAll (action : Option String) : List String → Session → Session
  | [], s => s
  | text :: more, s =>
    let signal := if text.toList.map Char.toUpper = "EXIT".toList then some 0 else Signal.ofText? text
    match signal with
    | none => { s.print 2 ("trap: " ++ text ++ ": bad trap\n") with status := 1 }
    | some n =>
      let traps := s.traps.filter (·.1 ≠ n) ++ (action.map fun a => (n, a)).toList
      trapAll action more
        { s with traps, mainTraps := if s.forked then s.mainTraps else traps }

/-- The scripts that are run on signals, as commands that would set them. -/
def trapListing (s : Session) : String :=
  let shown := (s.traps.mergeSort fun a b => a.1 ≤ b.1).map fun (signal, script) =>
    "trap -- '" ++ script ++ "' " ++ Signal.name signal ++ "\n"
  String.join shown

/-- Sets or lists the scripts that are run on signals. -/
def trap (s : Session) (args : List String) : Session :=
  let s := { s with status := 0 }
  match if args.head? = some "--" then args.tail else args with
  | [] => s.print 1 (trapListing s)
  | [signal] => trapAll none [signal] s
  | action :: signals =>
    if (Signal.ofNumber? action).isSome then trapAll none (action :: signals) s
    else trapAll (if action = "-" then none else some action) signals s

/-- Waits for a program in the background, which gives its status. -/
def waitFor (s : Session) (j : Job) : Session :=
  let s := s.waitUntil j.finish
  if !s.running then s
  else
    { s with
      jobs := s.jobs.filter (·.number ≠ j.number)
      held := if j.holds then max s.held j.finish else s.held
      status := j.status }

/-- Waits for programs in the background. -/
def wait (s : Session) : List String → Session
  | [] =>
    let s := s.jobs.reverse.foldl (fun s j => if s.running then waitFor s j else s) s
    if s.running then { s with status := 0 } else s
  | args =>
    args.foldl
      (fun s text =>
        if !s.running then s
        else
          withNumber s text fun n =>
            match s.jobs.find? (·.number = n) with
            | some j =>
              let s := waitFor s j
              if s.running then s.print 2 (j.signal.elim "" Signal.obituary) else s
            | none => { s with status := 127 })
      s

/-- Sends a signal to the shell that the number of the process stands for. -/
def signalShell (signal : Nat) (s : Session) : Session :=
  if signal = 0 then s
  else if s.forked then { s with caught := s.caught ++ [signal] }
  else
    match (s.mainTraps.find? (·.1 = signal)).filter fun _ => Signal.isCatchable signal with
    | some _ => { s with caught := s.caught ++ [signal] }
    | none =>
      match Signal.effect signal with
      | .none => s
      | .stops => s.stick
      | .dies => { s with flow := .killed signal }

/-- Sends a signal to a program in the background. What it would have written later is lost. -/
def signalJob (signal : Nat) (j : Job) (s : Session) : Session :=
  if s.time < j.finish ∧ Signal.effect signal = .dies then
    let ended := { j with
      finish := s.time, status := Session.signalStatus signal, signal := some signal }
    { s with
      jobs := s.jobs.map fun k => if k.number = j.number then ended else k
      writes := s.writes.filter fun (time, owner, _) => owner ≠ j.number || time ≤ s.time }
  else s

/-- Sends a signal to a process. -/
def signalProcess (signal : Nat) (s : Session) (process : String) : Session :=
  if process = Expansion.processNumber ∨ process = "0" then signalShell signal s
  else
    withNumber s process fun n =>
      match s.jobs.find? (·.number = n) with
      | some j => signalJob signal j s
      | none => s.refuse 1 "No such process\n"

/-- How signals are sent. -/
def killUsage : String :=
  "Usage: kill [-s sigspec | -signum | -sigspec] [pid | job]... or\nkill -l [exitstatus]"

/-- Sends a signal to processes. -/
def killAll (s : Session) (signal : Nat) (processes : List String) : Session :=
  match if processes.head? = some "--" then processes.tail else processes with
  | [] => s.abort killUsage
  | processes =>
    processes.foldl (fun s p => if s.running then signalProcess signal s p else s)
      { s with status := 0 }

/-- Lists the names of signals. -/
def signalNames (s : Session) : List String → Session
  | [] =>
    { s.print 1 (String.join (Signal.names.map fun n => n.1 ++ "\n")) with status := 0 }
  | text :: _ =>
    withNumber s text fun n =>
      let signal := if 128 < n then n - 128 else n
      if signal = 0 ∨ Signal.highest < signal then
        s.abort ("invalid signal number or exit status: " ++ text)
      else { s.print 1 (Signal.name signal ++ "\n") with status := 0 }

/-- Sends signals. -/
def kill (s : Session) (args : List String) : Session :=
  match args with
  | "-s" :: name :: rest =>
    match Signal.ofText? name with
    | some signal => killAll s signal rest
    | none => s.abort ("invalid signal number or name: " ++ name)
  | ["-s"] => s.abort "No arg for -s option"
  | "-l" :: rest => signalNames s rest
  | "--" :: rest => killAll s 15 rest
  | arg :: rest =>
    match arg.toList with
    | '-' :: c :: name =>
      match Signal.ofText? (String.ofList (c :: name)) with
      | some signal => killAll s signal rest
      | none => s.abort (illegalOption (String.ofList [c]))
    | _ => killAll s 15 args
  | [] => s.abort killUsage

/-- Sets variables to the words of a line, the last one to all that is left. -/
def assignWords (s : Session) : List String → List Char → Session
  | [], _ => s
  | [name], text =>
    let trimmed := (text.reverse.dropWhile (Expansion.separators s).contains).reverse
    s.setVariable name (String.ofList trimmed)
  | name :: names, text =>
    let word := text.takeWhile fun c => !(Expansion.separators s).contains c
    let rest := (text.drop word.length).dropWhile (Expansion.separators s).contains
    assignWords (s.setVariable name (String.ofList word)) names rest

/-- A line with its backslashes taken off. -/
def unslash : List Char → List Char
  | '\\' :: c :: rest => c :: unslash rest
  | ['\\'] => []
  | c :: rest => c :: unslash rest
  | [] => []

/-- Reads a line of the input into variables. -/
def read (s : Session) (args : List String) : Session :=
  let raw := args.head? = some "-r"
  let names := if raw then args.drop 1 else args
  match names.find? fun n => !Lexeme.isName n with
  | some bad => s.abort (bad ++ ": bad variable name")
  | none =>
    if names.isEmpty then s.abort "arg count"
    else
      let input := s.input 0
      let bytes := input.bytes ++ input.endless.getD []
      let text := bytes.takeWhile (· ≠ 10)
      let ended := text.length < bytes.length
      let s := s.consume 0 (min input.bytes.length (text.length + 1))
      let s := if ended then s else s.waitUntil input.time
      if !s.running then s
      else
        let chars := (Session.ofBytes text).toList
        let chars := if raw then chars else unslash chars
        let s := assignWords s names (chars.dropWhile (Expansion.separators s).contains)
        { s with status := if ended then 0 else 1 }

/-- How the shell tells that no time was used. -/
def noTime : String := "0m0.000000s 0m0.000000s\n"

/-- Performs a command that needs no script to be run. -/
def run? (name : String) (s : Session) (args : List String) : Option Session :=
  let complainer := { s with within := none }.heading ++ name
  match name with
  | ":" => some { s with status := 0 }
  | "true" => some { s with status := 0 }
  | "false" => some { s with status := 1 }
  | "umask" => some { s.print 1 (if args.isEmpty then "0022\n" else "") with status := 0 }
  | "times" => some { s.print 1 (noTime ++ noTime) with status := 0 }
  | "ulimit" => some { s with status := 0 }
  | "jobs" => some { s with status := 0 }
  | "trap" => some (trap s args)
  | "echo" => some { s.print 1 (Printing.echo args) with status := 0 }
  | "printf" => some (Tools.printf complainer s args)
  | "test" => some (Tools.test complainer false s args)
  | "[" => some (Tools.test complainer true s args)
  | "exit" => some (exit s args)
  | "return" => some (leave s args)
  | "break" => some (leaveLoops .breaking s args)
  | "continue" => some (leaveLoops .continuing s args)
  | "kill" => some (kill s args)
  | "read" => some (read s args)
  | "export" => some (publish s args)
  | "readonly" => some (fix s args)
  | "local" => some (makeLocal s args)
  | "set" => some (set s args)
  | "shift" => some (shift s args)
  | "unset" => some (unset s args)
  | "cd" => some (changeDirectory s args)
  | "pwd" => some { s.print 1 (workingDirectory s ++ "\n") with status := 0 }
  | "wait" => some (wait s args)
  | _ => none

end SoakRig.Shell.Builtin
