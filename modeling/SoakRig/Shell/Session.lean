import SoakRig.Decimal.Digits
import SoakRig.FileTree
import SoakRig.Shell.Script

/-!
# Shell sessions

What a running shell and the programs it starts share: files, the time, open channels, and the
common pipe that all output goes to unless it is led elsewhere. Time is kept in nanoseconds from the
start of the target; nothing goes on past the deadline.
-/

namespace SoakRig.Shell

/-- What is written to a pipe between two programs, and what of it has not been read yet. -/
structure Buffer where
  /-- The pieces and when they were written, in order. -/
  pieces : List (Nat × List UInt8)
  /-- What is written over and over again after the pieces. -/
  endless : Option (List UInt8)
  /-- When the last writer was gone. -/
  closed : Nat

namespace Buffer

def empty : Buffer := ⟨[], none, 0⟩

/-- A buffer that holds some bytes and no writer. -/
def ofBytes (bytes : List UInt8) : Buffer := ⟨[(0, bytes)], none, 0⟩

end Buffer

/-- What a descriptor leads to. -/
inductive Channel where
  /-- The common pipe. -/
  | common
  | null
  /-- The file at a place, to which writing adds. -/
  | file (place : Location)
  | buffer (number : Nat)
deriving DecidableEq

/-- How a shell goes on. -/
inductive Flow where
  | running
  | exited (code : Nat)
  | killed (signal : Nat)
  /-- Leaves so many loops. -/
  | breaking (levels : Nat)
  /-- Leaves all but one of so many loops and starts the next turn of that one. -/
  | continuing (levels : Nat)
  /-- Leaves a function or a script that is read in. -/
  | returning
  /-- Stands still until the deadline. -/
  | stuck
deriving DecidableEq

/-- A program in the background. -/
structure Job where
  number : Nat
  /-- When it ends. -/
  finish : Nat
  status : Nat
  /-- The signal that ends it, if one does. -/
  signal : Option Nat
  /-- It keeps the common pipe open until its end. -/
  holds : Bool

/-- What a shell is asked to do besides running commands. -/
structure Options where
  /-- The first failure ends the shell. -/
  strict : Bool
  /-- Commands are told of before they run. -/
  traced : Bool
  /-- A parameter without a value ends the shell. -/
  demanding : Bool
  /-- Commands are read and not run. -/
  idle : Bool

namespace Options

def none : Options := ⟨false, false, false, false⟩

/-- The options after a letter has been turned on or off. -/
def turn (o : Options) (on : Bool) : Char → Options
  | 'e' => { o with strict := on }
  | 'x' => { o with traced := on }
  | 'u' => { o with demanding := on }
  | 'n' => { o with idle := on }
  | _ => o

/-- The letters that are options. -/
def letters : List Char := "aCefnuvxbIimqVEs".toList

end Options

/-- A running shell with everything around it. -/
structure Session where
  files : FileTree
  /-- What was written to the common pipe, when, and by which program in the background; newest
  first. -/
  writes : List (Nat × Nat × List UInt8)
  /-- Until when programs that nobody waits for keep the common pipe open. -/
  held : Nat
  deadline : Nat
  buffers : List Buffer
  time : Nat
  descriptors : List (Nat × Channel)
  bindings : List (String × String)
  /-- The variables that programs get to see. -/
  exported : List String
  /-- The variables that keep their values. -/
  fixed : List String
  functions : List (String × Command)
  /-- The name that the shell calls itself by. -/
  name : String
  args : List String
  status : Nat
  /-- The line of the command that is run. -/
  line : Nat
  /-- The command of the shell that is run, for complaints. -/
  within : Option String
  /-- The programs in the background. -/
  jobs : List Job
  /-- The number of the last program in the background; zero if there was none. -/
  lastJob : Nat
  /-- The number of the next one. -/
  nextJob : Nat
  /-- The program in the background that this is; zero for none. -/
  self : Nat
  options : Options
  /-- How many loops the command stands in. -/
  loops : Nat
  /-- The scripts to run on a signal, or at the end, which counts as signal zero. -/
  traps : List (Nat × String)
  /-- The same for the shell that numbers and signals refer to. -/
  mainTraps : List (Nat × String)
  /-- The shell is a copy of another one. -/
  forked : Bool
  /-- The signals whose scripts are still to be run. -/
  caught : List Nat
  /-- The variables of the function that is run, with what they were before; none outside. -/
  locals : Option (List (String × Option String))
  flow : Flow

namespace Session

/-- Bytes as text, one character for each. -/
def ofBytes (bytes : List UInt8) : String :=
  String.ofList (bytes.map fun b => Char.ofNat b.toNat)

/-- Text as bytes, one for each character. -/
def toBytes (text : String) : List UInt8 := text.toList.map fun c => UInt8.ofNat c.toNat

/-- Text with one character for each byte. -/
def spread (text : String) : String := ofBytes (Text.utf8 text.toList)

/-- The path that text spells, one character for each byte. -/
def path (text : String) : Path := ⟨toBytes text⟩

/-- The text of a path in a directory. -/
def joined (dir name : String) : String := ofBytes ((path dir).join (path name)).bytes

/-- A session in which nothing has happened. -/
def fresh (files : FileTree) (deadline : Nat) (name : String) : Session where
  files
  writes := []
  held := 0
  deadline
  buffers := []
  time := 0
  descriptors := [(0, .null), (1, .common), (2, .common)]
  bindings := []
  exported := []
  fixed := []
  functions := []
  name
  args := []
  status := 0
  line := 1
  within := none
  jobs := []
  lastJob := 0
  nextJob := 5001
  self := 0
  options := .none
  loops := 0
  traps := []
  mainTraps := []
  forked := false
  caught := []
  locals := none
  flow := .running

def running (s : Session) : Bool := s.flow == .running

/-- The session ends for want of time. -/
def stick (s : Session) : Session := { s with time := s.deadline, flow := .stuck }

/-- The session after some time. -/
def wait (s : Session) (nanoseconds : Nat) : Session :=
  if s.deadline ≤ s.time + nanoseconds then s.stick
  else { s with time := s.time + nanoseconds }

/-- The session at a later time. -/
def waitUntil (s : Session) (time : Nat) : Session := s.wait (time - s.time)

/-- The channel of a descriptor, if it is open. -/
def channel? (s : Session) (descriptor : Nat) : Option Channel :=
  (s.descriptors.find? (·.1 = descriptor)).map (·.2)

/-- The descriptor led to a channel, or closed. -/
def lead (s : Session) (descriptor : Nat) (channel : Option Channel) : Session :=
  let others := s.descriptors.filter (·.1 ≠ descriptor)
  { s with descriptors := others ++ (channel.map fun c => (descriptor, c)).toList }

/-- The common pipe is open. -/
def holdsCommon (s : Session) : Bool := s.descriptors.any (·.2 = .common)

/-- The buffer changed. -/
def modifyBuffer (s : Session) (number : Nat) (f : Buffer → Buffer) : Session :=
  { s with buffers := s.buffers.modify number f }

/-- A new buffer and its number. -/
def newBuffer (s : Session) (b : Buffer) : Session × Nat :=
  ({ s with buffers := s.buffers ++ [b] }, s.buffers.length)

/-- Writes bytes, if the descriptor is open. -/
def write (s : Session) (descriptor : Nat) (bytes : List UInt8) : Session :=
  if bytes = [] then s
  else
    match s.channel? descriptor with
    | some .common => { s with writes := (s.time, s.self, bytes) :: s.writes }
    | some (.file place) => { s with files := s.files.extend place bytes }
    | some (.buffer n) =>
      s.modifyBuffer n fun b => { b with pieces := b.pieces ++ [(s.time, bytes)] }
    | _ => s

/-- Writes text. -/
def print (s : Session) (descriptor : Nat) (text : String) : Session :=
  s.write descriptor (toBytes text)

/-- How a complaint of the shell starts. -/
def heading (s : Session) : String :=
  s.name ++ ": " ++ String.ofList (Decimal.natural s.line) ++ ": " ++
    (match s.within with
      | some command => command ++ ": "
      | none => "")

/-- A complaint of the shell. -/
def complain (s : Session) (text : String) : Session := s.print 2 (s.heading ++ text ++ "\n")

/-- A complaint that ends the shell. -/
def abort (s : Session) (text : String) : Session := { s.complain text with flow := .exited 2 }

/-- A complaint that makes a command fail. -/
def refuse (s : Session) (status : Nat) (text : String) : Session :=
  { s.complain text with status }

/-- Writes bytes over and over again. -/
def writeForever (s : Session) (descriptor : Nat) (bytes : List UInt8) : Session :=
  match s.channel? descriptor with
  | some (.buffer n) => (s.modifyBuffer n fun b => { b with endless := some bytes }).stick
  | _ => s.stick

/-- What is at hand on a descriptor: the bytes up to the end, what follows them forever, and when the
end is reached. -/
structure Input where
  bytes : List UInt8
  endless : Option (List UInt8)
  time : Nat

/-- Looks at all that will be read from a descriptor. -/
def input (s : Session) (descriptor : Nat) : Input :=
  match s.channel? descriptor with
  | some (.buffer n) =>
    match s.buffers[n]? with
    | some b =>
      ⟨b.pieces.flatMap (·.2), b.endless, max s.time b.closed⟩
    | none => ⟨[], none, s.time⟩
  | _ => ⟨[], none, s.time⟩

/-- When so many bytes of a buffer have been written. -/
def readyAt (b : Buffer) (count now : Nat) : Nat :=
  match b.pieces.foldl
      (fun (acc : Nat × Nat) piece =>
        if acc.1 = 0 then acc else (acc.1 - piece.2.length, max acc.2 piece.1))
      (count, now) with
  | (0, time) => time
  | (_, time) => if b.endless.isSome then time else max time b.closed

/-- Drops so many bytes from the front of pieces. -/
def dropBytes : Nat → List (Nat × List UInt8) → List (Nat × List UInt8)
  | _, [] => []
  | count, (time, bytes) :: rest =>
    if bytes.length ≤ count then dropBytes (count - bytes.length) rest
    else (time, bytes.drop count) :: rest

/-- Takes bytes off the front of what a descriptor gives, once they have been written. -/
def consume (s : Session) (descriptor count : Nat) : Session :=
  match s.channel? descriptor with
  | some (.buffer n) =>
    match s.buffers[n]? with
    | some b =>
      (s.modifyBuffer n fun b => { b with pieces := dropBytes count b.pieces }).waitUntil
        (readyAt b count s.time)
    | none => s
  | _ => s

/-- The value of a variable, if it is set. -/
def valueOf? (s : Session) (name : String) : Option String :=
  (s.bindings.find? (·.1 = name)).map (·.2)

/-- The variable set, unless it keeps its value. -/
def setVariable (s : Session) (name value : String) : Session :=
  if s.fixed.contains name then s.abort (name ++ ": is read only")
  else { s with bindings := s.bindings.filter (·.1 ≠ name) ++ [(name, value)] }

/-- The variable unset. -/
def unsetVariable (s : Session) (name : String) : Session :=
  { s with bindings := s.bindings.filter (·.1 ≠ name) }

/-- The number of the status that tells of a signal. -/
def signalStatus (signal : Nat) : Nat := 128 + signal

/-- The status of a shell that has ended. -/
def finalStatus (s : Session) : Nat :=
  match s.flow with
  | .exited code => code
  | .killed signal => signalStatus signal
  | _ => s.status

/-- A copy of the shell. Scripts for signals are not taken over, ignored signals are. -/
def fork (s : Session) : Session :=
  { s with jobs := [], forked := true, caught := [], traps := s.traps.filter (·.2 = "") }

/-- Until when the programs in the background keep the common pipe open. -/
def heldByJobs (s : Session) : Nat :=
  s.jobs.foldl (fun t j => if j.holds then max t j.finish else t) s.held

/-- The parent of a shell that has ended at some time; what is shared is as the child left it. -/
def join (parent child : Session) : Session :=
  { parent with
    files := { child.files with here := parent.files.here }
    writes := child.writes
    held := child.heldByJobs
    buffers := child.buffers
    nextJob := child.nextJob
    caught := parent.caught ++ child.caught }

end Session

end SoakRig.Shell
