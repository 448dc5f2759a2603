import SoakRig.Decimal.Digits

/-!
# Signals

The signals that a shell can send, by number and by name, and what becomes of a program that gets
one without having asked for it.
-/

namespace SoakRig.Shell.Signal

/-- The names of signals with their numbers. -/
def names : List (String × Nat) := [
  ("HUP", 1), ("INT", 2), ("QUIT", 3), ("ILL", 4), ("TRAP", 5), ("ABRT", 6), ("BUS", 7),
  ("FPE", 8), ("KILL", 9), ("USR1", 10), ("SEGV", 11), ("USR2", 12), ("PIPE", 13), ("ALRM", 14),
  ("TERM", 15), ("CHLD", 17), ("CONT", 18), ("STOP", 19), ("TSTP", 20), ("TTIN", 21),
  ("TTOU", 22), ("URG", 23), ("XCPU", 24), ("XFSZ", 25), ("VTALRM", 26), ("PROF", 27),
  ("WINCH", 28), ("IO", 29), ("PWR", 30), ("SYS", 31)]

/-- The highest number of a signal. -/
def highest : Nat := 64

/-- What becomes of a program that gets a signal. -/
inductive Effect where
  | none
  | stops
  | dies
deriving DecidableEq

/-- What becomes of a program that gets a signal. -/
def effect (signal : Nat) : Effect :=
  if signal = 0 ∨ signal = 17 ∨ signal = 18 ∨ signal = 23 ∨ signal = 28 then .none
  else if 19 ≤ signal ∧ signal ≤ 22 then .stops
  else .dies

/-- The signal can be caught. -/
def isCatchable (signal : Nat) : Bool := signal ≠ 9 && signal ≠ 19

/-- The number of the signal that a text is the number of. -/
def ofNumber? (text : String) : Option Nat :=
  (Decimal.natural? text.toList).filter (· ≤ highest)

/-- The number of the signal that a text names. -/
def ofText? (text : String) : Option Nat :=
  match names.find? fun n => n.1 == String.ofList (text.toList.map Char.toUpper) with
  | some (_, number) => some number
  | none => ofNumber? text

/-- The name of a signal. The end of a shell counts as signal zero. -/
def name (signal : Nat) : String :=
  if signal = 0 then "EXIT"
  else
    match names.find? (·.2 = signal) with
    | some (name, _) => name
    | none => String.ofList (Decimal.natural signal)

/-- What a shell says when a program that it waited for died of a signal. -/
def obituary : Nat → String
  | 1 => "Hangup\n"
  | 3 => "Quit\n"
  | 4 => "Illegal instruction\n"
  | 5 => "Trace/breakpoint trap\n"
  | 6 => "Aborted\n"
  | 7 => "Bus error\n"
  | 8 => "Floating point exception\n"
  | 9 => "Killed\n"
  | 10 => "User defined signal 1\n"
  | 11 => "Segmentation fault\n"
  | 12 => "User defined signal 2\n"
  | 14 => "Alarm clock\n"
  | 15 => "Terminated\n"
  | 16 => "Stack fault\n"
  | 24 => "CPU time limit exceeded\n"
  | 25 => "File size limit exceeded\n"
  | 26 => "Virtual timer expired\n"
  | 27 => "Profiling timer expired\n"
  | 29 => "I/O possible\n"
  | 30 => "Power failure\n"
  | 31 => "Bad system call\n"
  | signal =>
    if 34 ≤ signal then "Real-time signal " ++ String.ofList (Decimal.natural (signal - 34)) ++ "\n"
    else ""

end SoakRig.Shell.Signal
