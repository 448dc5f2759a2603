import SoakRig.Decimal.Digits
import SoakRig.Text.Quoted

/-!
# System errors

Why the system refuses an operation, and the text of that.
-/

namespace SoakRig

/-- Why the system refuses an operation. -/
inductive SystemError where
  | notFound
  | argumentsTooLong
  | notExecutable
  | permissionDenied
  | alreadyExists
  | notADirectory
  | isADirectory
  | noSpace
  | nameTooLong
  | tooManyLinks
  | addressNotAvailable
  | networkUnreachable
  /-- A zero byte in the name of a file. -/
  | zeroInPath
  /-- A zero byte in a program or an argument. -/
  | zeroInArgument
  /-- A refusal with a text of its own. -/
  | other (text : String)
deriving DecidableEq

namespace SystemError

/-- The number and the name of an error that the system numbers. -/
def numbered? : SystemError → Option (Nat × String)
  | notFound => some (2, "No such file or directory")
  | argumentsTooLong => some (7, "Argument list too long")
  | notExecutable => some (8, "Exec format error")
  | permissionDenied => some (13, "Permission denied")
  | alreadyExists => some (17, "File exists")
  | notADirectory => some (20, "Not a directory")
  | isADirectory => some (21, "Is a directory")
  | noSpace => some (28, "No space left on device")
  | nameTooLong => some (36, "File name too long")
  | tooManyLinks => some (40, "Too many levels of symbolic links")
  | addressNotAvailable => some (99, "Cannot assign requested address")
  | networkUnreachable => some (101, "Network is unreachable")
  | _ => none

/-- The name of the error, without its number. -/
def name : SystemError → String
  | zeroInPath => "file name contained an unexpected NUL byte"
  | zeroInArgument => "nul byte found in provided data"
  | other text => text
  | e => (e.numbered?.map (·.2)).getD ""

/-- The text of the error. -/
def message (e : SystemError) : String :=
  match e.numbered? with
  | some (number, name) =>
    name ++ " (os error " ++ String.ofList (Decimal.natural number) ++ ")"
  | none => e.name

/-- The name of the kind of error. -/
def kind : SystemError → String
  | notFound => "NotFound"
  | argumentsTooLong => "ArgumentListTooLong"
  | notExecutable => "Uncategorized"
  | permissionDenied => "PermissionDenied"
  | alreadyExists => "AlreadyExists"
  | notADirectory => "NotADirectory"
  | isADirectory => "IsADirectory"
  | noSpace => "StorageFull"
  | nameTooLong => "InvalidFilename"
  | tooManyLinks => "FilesystemLoop"
  | addressNotAvailable => "AddrNotAvailable"
  | networkUnreachable => "NetworkUnreachable"
  | zeroInPath => "InvalidInput"
  | zeroInArgument => "InvalidInput"
  | other _ => "Other"

/-- The error with all its parts. -/
def details (e : SystemError) : String :=
  let quoted := Text.quoted e.name
  match e, e.numbered? with
  | _, some (number, _) =>
    "Os \x7b code: " ++ String.ofList (Decimal.natural number) ++ ", kind: " ++ e.kind ++
      ", message: " ++ quoted ++ " \x7d"
  | other _, none => "Custom \x7b kind: " ++ e.kind ++ ", error: " ++ quoted ++ " \x7d"
  | _, none => "Error \x7b kind: " ++ e.kind ++ ", message: " ++ quoted ++ " \x7d"

end SystemError

end SoakRig
