/-!
# Targets

The program that a soak runs, with the arguments that stand before those of each iteration.
-/

namespace SoakRig

/-- A program and its leading arguments. -/
structure Target where
  program : String
  leading : List String
deriving DecidableEq

namespace Target

/-- A jar, run by a launcher. -/
def javaJar (java jar : String) : Target := ⟨java, ["-jar", jar]⟩

/-- A program by itself. -/
def direct (program : String) : Target := ⟨program, []⟩

def defaultJar : String := "target/order-manager-1.0.0.jar"

def defaultJava : String := "java"

def default : Target := javaJar defaultJava defaultJar

/-- All arguments of a run. -/
def argv (t : Target) (args : List String) : List String := t.leading ++ args

/-- The command line of a run, for logs. -/
def display (t : Target) (args : List String) : String :=
  String.intercalate " " (t.program :: t.argv args)

end Target

end SoakRig
