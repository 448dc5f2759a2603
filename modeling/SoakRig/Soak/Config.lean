import SoakRig.Decimal.Digits
import SoakRig.Duration
import SoakRig.Path
import SoakRig.Target

/-!
# Soak configurations

What is run how often, with which pauses and limits, and where the raw output goes.
-/

namespace SoakRig.Soak

/-- The command without the separator that may stand in front of it. -/
def stripSeparator : List String → List String
  | [] => []
  | token :: tokens => if token = "--" then tokens else token :: tokens

/-- The character may stand in the label of a command. -/
def isLabelChar (c : Char) : Bool := c.isAlphanum || c = '_' || c = '-'

/-- The label of a command whose first token has no character that may stand in one. -/
def defaultLabel : List Char := "run".toList

/-- The label of a command: what of its first token may stand in one. -/
def labelChars (command : List String) : List Char :=
  let kept := (command.head?.getD "").toList.filter isLabelChar
  if kept = [] then defaultLabel else kept

def label (command : List String) : String := String.ofList (labelChars command)

/-- The name of the file with the output of an iteration. -/
def logName (command : List String) (index : UInt32) : String :=
  String.ofList (labelChars command ++ '-' :: Decimal.padded 4 index.toNat ++ ".log".toList)

/-- A label is made of label characters, also the one that stands for no label. -/
theorem isLabelChar_of_mem {command : List String} {c : Char} (h : c ∈ labelChars command) :
    isLabelChar c := by
  simp only [labelChars] at h
  split at h
  · have usual : defaultLabel.all isLabelChar := by decide
    exact List.all_eq_true.1 usual c h
  · exact (List.mem_filter.1 h).2

/-- Different iterations have different files. -/
theorem logName_injective {command : List String} {i j : UInt32}
    (h : logName command i = logName command j) : i = j := by
  have chars := String.ofList_injective h
  rw [List.append_left_inj, List.append_right_inj, List.cons_inj_right] at chars
  exact UInt32.toNat_inj.1 (Decimal.padded_injective chars)

/-- What is run how often, with which pauses and limits, and where the raw output goes. -/
structure Config where
  target : Target
  /-- The command of an iteration, with placeholders. -/
  command : List String
  iterations : UInt32
  /-- The pause between two iterations. -/
  sleep : Duration
  /-- The limit on one iteration. -/
  timeout : Duration
  /-- The directory that gets the raw output, if any. -/
  logDir : Option Path
  /-- The raw output is repeated in the report. -/
  verbose : Bool

namespace Config

/-- A target and a command, with the usual numbers. -/
def of (target : Target) (command : List String) : Config where
  target
  command := stripSeparator command
  iterations := 50
  sleep := .ofMilliseconds 200
  timeout := .ofWholeSeconds 30
  logDir := none
  verbose := false

/-- The path of the file with the output of an iteration. -/
def logPath (c : Config) (index : UInt32) : Option Path :=
  c.logDir.map fun dir => dir.join (logName c.command index)

end Config

end SoakRig.Soak
