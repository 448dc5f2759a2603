/-!
# Shell scripts

The commands that a script is made of. Text is held byte by byte: each character stands for the byte
with its code.
-/

namespace SoakRig.Shell

/-- What a parameter stands for if it is unset or empty. -/
inductive Fallback where
  /-- The word instead. -/
  | use
  /-- The word instead, which the parameter is then set to. -/
  | assign
  /-- The word if the parameter does have a value. -/
  | replace
  /-- Nothing: the shell ends with the word as its complaint. -/
  | demand
deriving DecidableEq

/-- A piece of a word. -/
inductive Part where
  | plain (text : String)
  | quoted (text : String)
  /-- The home directory. -/
  | home
  | parameter (name : String) (inQuotes : Bool)
  | length (name : String) (inQuotes : Bool)
  /-- A parameter with a word beside it; an empty value may count as none. -/
  | withFallback (name : String) (kind : Fallback) (emptyCounts : Bool) (word : String)
      (inQuotes : Bool)
  /-- A parameter without what a pattern matches at one end, as little or as much as possible. -/
  | trimmed (name : String) (atEnd longest : Bool) (pattern : String) (inQuotes : Bool)
  | output (script : String) (inQuotes : Bool)
  | number (expression : String) (inQuotes : Bool)
  /-- What stands between braces is no parameter. -/
  | malformed
deriving DecidableEq

/-- A word before it is expanded. -/
abbrev Word := List Part

/-- Where a redirection leads. -/
inductive Direction where
  | fromFile
  /-- The word itself is what is read. -/
  | fromText
  | toFile
  | appendFile
  | duplicate
deriving DecidableEq

/-- A redirection of a descriptor. -/
structure Redirection where
  descriptor : Nat
  direction : Direction
  word : Word

/-- A command. -/
inductive Command where
  | nothing
  /-- Assignments, words and redirections, on a line of the script. -/
  | simple (line : Nat) (assignments : List (String × Word)) (words : List Word)
      (redirections : List Redirection)
  | pipe (left right : Command)
  | negate (command : Command)
  | and (left right : Command)
  | or (left right : Command)
  | sequence (left right : Command)
  | background (command : Command)
  | subshell (body : Command)
  | redirected (line : Nat) (body : Command) (redirections : List Redirection)
  | conditional (condition consequent alternative : Command)
  /-- A loop that goes on while its condition succeeds, or until it does. -/
  | loop (untilTrue : Bool) (condition body : Command)
  /-- A loop over words; without any, over the arguments. -/
  | each (name : String) (words : Option (List Word)) (body : Command)
  /-- The first of some commands that has a pattern which a word matches. -/
  | choice (word : Word) (cases : List (List Word × Command))
  /-- The body of a function. -/
  | define (name : String) (body : Command)

end SoakRig.Shell
