/-!
# Settings

A value together with where it was read from.
-/

namespace SoakRig

/-- Where a value was read from. -/
inductive Source where
  | default
  | environment
  | commandLine
deriving DecidableEq

namespace Source

def all : List Source := [default, environment, commandLine]

/-- The name in messages. -/
def display : Source → String
  | default => "default"
  | environment => "environment"
  | commandLine => "command line"

/-- The name in records. -/
def name : Source → String
  | default => "default"
  | environment => "environment"
  | commandLine => "command_line"

end Source

/-- A value and where it was read from. -/
structure Setting (α : Type) where
  value : α
  source : Source
  /-- The variable, if the value was read from one. -/
  variableName : Option String

namespace Setting

def ofDefault {α : Type} (value : α) : Setting α := ⟨value, .default, none⟩

def ofEnvironment {α : Type} (value : α) (name : String) : Setting α :=
  ⟨value, .environment, some name⟩

def ofCommandLine {α : Type} (value : α) : Setting α := ⟨value, .commandLine, none⟩

/-- The same place with another value. -/
def map {α β : Type} (f : α → β) (s : Setting α) : Setting β := { s with value := f s.value }

def isDefault {α : Type} (s : Setting α) : Bool := s.source = .default

/-- Where the value was read from, with the variable if there is one. -/
def origin {α : Type} (s : Setting α) : String :=
  match s.variableName with
  | some name => s.source.display ++ " (" ++ name ++ ")"
  | none => s.source.display

end Setting

end SoakRig
