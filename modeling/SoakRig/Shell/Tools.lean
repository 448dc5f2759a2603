import SoakRig.Binary64.Literal
import SoakRig.Shell.Condition
import SoakRig.Shell.Printing

/-!
# Programs that a shell starts

What each installed program does with its arguments, its input and the files.
-/

namespace SoakRig.Shell.Tools

/-- Prints a complaint and fails. -/
def fail (s : Session) (complaint : String) : Session :=
  { s.print 2 (complaint ++ "\n") with status := 1 }

/-- The hint of a program that does not understand its arguments. -/
def hint (tool : String) : String := "Try '" ++ tool ++ " --help' for more information."

/-- Complains about the arguments of a program. -/
def misused (s : Session) (tool complaint : String) : Session :=
  fail (s.print 2 (tool ++ ": " ++ complaint ++ "\n")) (hint tool)

/-- The first letter that is no option of a program, if there is one. -/
def strangeOption? (letters : List Char) (args : List String) : Option Char :=
  args.firstM fun arg =>
    match arg.toList with
    | '-' :: c :: cs => if c = '-' then none else (c :: cs).find? fun d => !letters.contains d
    | _ => none

/-- Copies pieces to the output when they come in. -/
def copyPieces (s : Session) : List (Nat × List UInt8) → Session
  | [] => s
  | (time, bytes) :: rest =>
    let s := s.waitUntil time
    if s.running then copyPieces (s.write 1 bytes) rest else s

/-- Copies the input to the output. -/
def copyInput (s : Session) : Session :=
  match s.channel? 0 with
  | some (.buffer n) =>
    match s.buffers[n]? with
    | none => s
    | some b =>
      let s := copyPieces (s.modifyBuffer n fun b => { b with pieces := [] }) b.pieces
      if !s.running then s
      else
        match b.endless with
        | some bytes => s.writeForever 1 bytes
        | none => s.waitUntil b.closed
  | _ => s

/-- The path as complaints show it. -/
def shownPath (path : String) : String :=
  if path = "" ∨ path.toList.any (" '\t\n:*?$&;|<>()".toList.contains ·) then "'" ++ path ++ "'"
  else path

/-- Copies a file to the output. -/
def copyFile (s : Session) (path : String) : Session :=
  match s.files.read (Session.path path) with
  | .ok bytes => s.write 1 bytes
  | .error e => fail s ("cat: " ++ shownPath path ++ ": " ++ e.name)

/-- Copies files, and the input where a dash stands. -/
def cat (s : Session) (args : List String) : Session :=
  match strangeOption? "AbeEnstTuv".toList args with
  | some c => misused s "cat" ("invalid option -- '" ++ String.ofList [c] ++ "'")
  | none =>
    let args := args.filter fun a => a ≠ "--" && (a = "-" || !a.startsWith "-")
    let paths := if args.isEmpty then ["-"] else args
    paths.foldl
      (fun s path => if !s.running then s else if path = "-" then copyInput s else copyFile s path)
      { s with status := 0 }

/-- So many bytes of a pattern written over and over. -/
def cycle (count : Nat) (pattern : List UInt8) : List UInt8 :=
  if pattern = [] then []
  else ((List.replicate (count / pattern.length + 1) pattern).flatten).take count

/-- The bytes up to the end of so many lines. -/
def takeLines : Nat → (done : List UInt8) → List UInt8 → List UInt8
  | _, done, [] => done.reverse
  | 0, done, _ => done.reverse
  | n + 1, done, b :: bytes =>
    if b = 10 then takeLines n (b :: done) bytes else takeLines (n + 1) (b :: done) bytes

/-- How much of a text is printed from its start. -/
inductive Extent where
  | bytes (count : Nat)
  | lines (count : Nat)

/-- The front of a text that may go on forever. -/
def front (e : Extent) (bytes : List UInt8) (endless : Option (List UInt8)) : List UInt8 :=
  match e, endless with
  | .bytes n, none => bytes.take n
  | .bytes n, some pattern => bytes.take n ++ cycle (n - bytes.length) pattern
  | .lines n, none => takeLines n [] bytes
  | .lines n, some pattern =>
    takeLines n [] (bytes ++ cycle (n * pattern.length) pattern)

/-- The extent that options ask for, and the arguments behind them. -/
def extent : List String → Except String (Extent × List String)
  | "-c" :: n :: rest =>
    match Decimal.natural? n.toList with
    | some n => .ok (.bytes n, rest)
    | none => .error ("head: invalid number of bytes: '" ++ n ++ "'")
  | "-n" :: n :: rest =>
    match Decimal.natural? n.toList with
    | some n => .ok (.lines n, rest)
    | none => .error ("head: invalid number of lines: '" ++ n ++ "'")
  | arg :: rest =>
    match arg.toList with
    | '-' :: 'c' :: digits =>
      match Decimal.natural? digits with
      | some n => .ok (.bytes n, rest)
      | none => .ok (.lines 10, arg :: rest)
    | '-' :: 'n' :: digits =>
      match Decimal.natural? digits with
      | some n => .ok (.lines n, rest)
      | none => .ok (.lines 10, arg :: rest)
    | '-' :: digits =>
      match Decimal.natural? digits with
      | some n => .ok (.lines n, rest)
      | none => .ok (.lines 10, arg :: rest)
    | _ => .ok (.lines 10, arg :: rest)
  | [] => .ok (.lines 10, [])

/-- Prints the front of files, perhaps with their names. -/
def headOfFiles (e : Extent) (named : Bool) : (isFirst : Bool) → List String → Session → Session
  | _, [], s => s
  | isFirst, path :: paths, s =>
    let heading := if isFirst then "==> " else "\n==> "
    let s :=
      match s.files.read (Session.path path) with
      | .ok bytes =>
        let s := if named then s.print 1 (heading ++ path ++ " <==\n") else s
        s.write 1 (front e bytes none)
      | .error .isADirectory => fail s ("head: error reading '" ++ path ++ "': Is a directory")
      | .error err => fail s ("head: cannot open '" ++ path ++ "' for reading: " ++ err.name)
    headOfFiles e named false paths s

/-- Prints the front of files or of the input. -/
def head (s : Session) (args : List String) : Session :=
  match extent args with
  | .error complaint => fail s complaint
  | .ok (e, []) =>
    let input := s.input 0
    let bytes := front e input.bytes input.endless
    let s := s.consume 0 bytes.length
    let s := if bytes.length < input.bytes.length ∨ input.endless.isSome then s
      else
        match e with
        | .bytes n => if bytes.length < n then s.waitUntil input.time else s
        | .lines n => if bytes.count 10 < n then s.waitUntil input.time else s
    if s.running then { s.write 1 bytes with status := 0 } else s
  | .ok (e, paths) => headOfFiles e (1 < paths.length) true paths { s with status := 0 }

/-- The nanoseconds that a text asks to sleep for; none if that is forever. -/
def interval? (text : String) : Option (Option Nat) :=
  let chars := text.toList
  let (body, scale) :=
    match chars.getLast? with
    | some 's' => (chars.dropLast, 1)
    | some 'm' => (chars.dropLast, 60)
    | some 'h' => (chars.dropLast, 3600)
    | some 'd' => (chars.dropLast, 86400)
    | _ => (chars, 1)
  if body = "inf".toList ∨ body = "infinity".toList then some none
  else
    match Binary64.Literal.read? body with
    | none => none
    | some l =>
      some (some (l.digits * scale * tenTo (l.exponent + 9).toNat / tenTo (-(l.exponent + 9)).toNat))

/-- Waits. -/
def sleep (s : Session) (args : List String) : Session :=
  let args := args.filter (· ≠ "--")
  match strangeOption? [] args with
  | some c => misused s "sleep" ("invalid option -- '" ++ String.ofList [c] ++ "'")
  | none =>
    if args.isEmpty then misused s "sleep" "missing operand"
    else
      match args.find? fun a => (interval? a).isNone with
      | some bad => misused s "sleep" ("invalid time interval '" ++ bad ++ "'")
      | none =>
        args.foldl
          (fun s a =>
            if !s.running then s
            else
              match interval? a with
              | some (some n) => s.wait n
              | _ => s.stick)
          { s with status := 0 }

/-- Makes directories. -/
def makeDirectories (s : Session) (args : List String) : Session :=
  match strangeOption? ['p', 'v'] args with
  | some c => misused s "mkdir" ("invalid option -- '" ++ String.ofList [c] ++ "'")
  | none =>
    let withParents := args.contains "-p"
    let paths := args.filter fun a => a ≠ "-p" && a ≠ "--"
    if paths.isEmpty then misused s "mkdir" "missing operand"
    else
      paths.foldl
        (fun s path =>
          let refused (e : SystemError) : Session :=
            fail s ("mkdir: cannot create directory '" ++ path ++ "': " ++ e.name)
          if withParents then
            match s.files.makeDirectories (Session.path path) with
            | (.ok (), files) => { s with files }
            | (.error e, files) => { refused e with files }
          else
            match s.files.makeDirectory (Session.path path) with
            | .ok files => { s with files }
            | .error e => refused e)
        { s with status := 0 }

/-- Prints a line again and again. -/
def yes (s : Session) (args : List String) : Session :=
  let line := if args.isEmpty then "y" else String.intercalate " " args
  s.writeForever 1 (Session.toBytes (line ++ "\n"))

/-- Prints a format. What is complained about comes first. -/
def printf (complainer : String) (s : Session) (args : List String) : Session :=
  match if args.head? = some "--" then args.tail else args with
  | [] => { s.print 2 (complainer ++ ": usage: printf format [arg ...]\n") with status := 2 }
  | format :: words =>
    match format.toList with
    | '-' :: c :: _ =>
      { s.print 2 (complainer ++ ": Illegal option -" ++ String.ofList [c] ++ "\n") with
        status := 2 }
    | _ =>
      let printed := Printing.printf format words
      let s := printed.complaints.foldl
        (fun s c => s.print 2 (complainer ++ ": " ++ c ++ "\n")) s
      { s.print 1 (String.ofList printed.out) with
        status := if printed.broken then 2 else if printed.complaints.isEmpty then 0 else 1 }

/-- Tests a condition; between brackets if the last word has to be one. -/
def test (complainer : String) (bracketed : Bool) (s : Session) (args : List String) : Session :=
  let complain (text : String) : Session :=
    { s.print 2 (complainer ++ ": " ++ text ++ "\n") with status := 2 }
  if bracketed && args.getLast? ≠ some "]" then complain "missing ]"
  else
    match Condition.test s (if bracketed then args.dropLast else args) with
    | .ok v => { s with status := if v then 0 else 1 }
    | .error e => complain e

/-- Runs an installed program, if it is one of these. -/
def run? (name : String) (s : Session) (args : List String) : Option Session :=
  match name with
  | "echo" => some { s.print 1 (Printing.echoProgram args) with status := 0 }
  | "cat" => some (cat s args)
  | "head" => some (head s args)
  | "sleep" => some (sleep s args)
  | "mkdir" => some (makeDirectories s args)
  | "yes" => some (yes s args)
  | "printf" => some (printf "printf" s args)
  | "test" => some (test "test" false s args)
  | "[" => some (test "[" true s args)
  | "true" => some { s with status := 0 }
  | "false" => some { s with status := 1 }
  | _ => none

end SoakRig.Shell.Tools
