import SoakRig.Json
import SoakRig.Text.Quoted

/-!
# Log records

What a program reports while it runs: a level, the place that reports, and named values. A record
is written as a readable line or as one JSON object.
-/

namespace SoakRig.Log

/-- How much a record matters, from the most to the least. -/
inductive Level where
  | error
  | warn
  | info
  | debug
  | trace
deriving DecidableEq

namespace Level

def name : Level → String
  | error => "ERROR"
  | warn => "WARN"
  | info => "INFO"
  | debug => "DEBUG"
  | trace => "TRACE"

/-- The place of a level in the order from the most to the least that matters. -/
def detail : Level → Nat
  | error => 1
  | warn => 2
  | info => 3
  | debug => 4
  | trace => 5

end Level

/-- A named value of a record. -/
inductive Value where
  /-- A text, quoted on readable lines. -/
  | text (s : String)
  /-- A text that stands for itself everywhere. -/
  | shown (s : String)
  | integer (n : Int)
  | number (x : Binary64)
  | list (texts : List String)

namespace Value

/-- The value on a readable line. -/
def readable : Value → String
  | text s => Text.quoted s
  | shown s => s
  | integer n => String.ofList (Decimal.integer n)
  | number x => Decimal.shortest .readable x
  | list texts => Text.quotedList texts

/-- The value in a JSON object. -/
def toJson : Value → Json
  | text s => .string s
  | shown s => .string s
  | integer n => .integer n
  | number x => .number x
  | list texts => .string (Text.quotedList texts)

end Value

/-- One report. -/
structure Record where
  level : Level
  target : String
  message : Option String
  fields : List (String × Value)

namespace Record

/-- A report that is a message alone. -/
def ofMessage (level : Level) (target message : String) : Record := ⟨level, target, message, []⟩

/-- Control characters of a message are written by their code, so that a line stays harmless. -/
def printable (message : String) : String :=
  String.ofList (message.toList.flatMap fun c =>
    if c = '\x1b' then "\\x1b".toList
    else if c = '\x07' then "\\x07".toList
    else if c = '\x08' then "\\x08".toList
    else if c = '\x0c' then "\\x0c".toList
    else if c = '\x7f' then "\\x7f".toList
    else if 0x80 ≤ c.toNat ∧ c.toNat ≤ 0x9f then
      "\\u\x7b".toList ++ Nat.toDigits 16 c.toNat ++ ['\x7d']
    else [c])

/-- The level at the right of five columns. -/
def levelColumn (level : Level) : String :=
  String.ofList (List.replicate (5 - level.name.length) ' ') ++ level.name

/-- The record as a readable line, after the time of day. -/
def readableLine (time : String) (r : Record) : String :=
  String.intercalate " "
    (time :: levelColumn r.level :: (r.message.map printable).toList ++
      r.fields.map fun (name, value) => name ++ "=" ++ value.readable)

/-- The record as a JSON object. -/
def toJson (time : String) (r : Record) : Json :=
  let message := r.message.map fun m => ("message", Json.string m)
  .object [
    ("timestamp", .string time),
    ("level", .string r.level.name),
    ("fields", .object (message.toList ++ r.fields.map fun (name, value) => (name, value.toJson))),
    ("target", .string r.target)]

/-- The record as a line of JSON. -/
def structuredLine (time : String) (r : Record) : String := (r.toJson time).render

end Record

end SoakRig.Log
