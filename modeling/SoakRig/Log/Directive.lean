import SoakRig.Binary64.Literal
import SoakRig.Log.Threshold
import SoakRig.Regex.Expression
import SoakRig.Text.Pieces
import SoakRig.Text.Utf8

/-!
# Log directives

The parts of a log filter. A directive names a place, a field and a level, or a level for all places,
or a place alone, which stands for every level. Directives are ordered by how specific they are.
-/

namespace SoakRig.Log

/-- What a directive asks of a field: that there is one, or also that its value is like another. -/
structure FieldTest where
  name : String
  hasValue : Bool

namespace FieldTest

/-- The text is a value to compare with: a truth value, a number or a regular expression. -/
def isValue (text : String) : Bool :=
  text = "true" || text = "false" || (Binary64.ofText? text.toList).isSome ||
    Regex.isExpression text.toList

/-- Reads a name, or a name and a value between equals signs. -/
def ofText? (text : String) : Option FieldTest :=
  match Text.piecesOf '=' text with
  | [] => none
  | [name] => if name = "" then none else some ⟨name, false⟩
  | name :: value :: _ => if isValue value then some ⟨name, true⟩ else none

end FieldTest

/-- One part of a filter. -/
structure Directive where
  place : Option String
  /-- The field that a record has to have. -/
  field : Option String
  threshold : Threshold
  /-- The directive holds inside a stretch of work only, and there is none. -/
  needsStretch : Bool

namespace Directive

/-- How far the reading of a directive has come. Numbers are positions in its bytes. -/
inductive Stage where
  | start
  | name (position : Nat)
  | stretch (position : Nat)
  | field (position : Nat)
  | fieldEnd
  | place
  | level (position : Nat)
deriving DecidableEq

/-- A directive while it is read. -/
structure Draft where
  stage : Stage
  place : Option String
  stretch : Option String
  field : Option FieldTest

/-- The text from one position to another, if both lie between characters. -/
def between? (bytes : List UInt8) (a b : Nat) : Option String :=
  (Text.decode? ((bytes.take b).drop a)).map String.ofList

/-- The text from a position on. -/
def from? (bytes : List UInt8) (a : Nat) : Option String := between? bytes a bytes.length

/-- The character may start the name of a place. -/
def startsName (c : Char) : Bool := ['-', ':', '_'].contains c || Text.isAlphanumeric c

/-- Reads one more character, which stands at a position. -/
def next? (bytes : List UInt8) (d : Draft) (i : Nat) (c : Char) : Option Draft :=
  match d.stage with
  | .start =>
    if c = '[' then some { d with stage := .stretch (i + 1) }
    else if startsName c then some { d with stage := .name i }
    else none
  | .name a =>
    if c = '=' ∨ c = '[' then
      (between? bytes a i).map fun place =>
        { d with place := some place, stage := if c = '=' then .level (i + 1) else .stretch (i + 1) }
    else some d
  | .stretch a =>
    if c = ']' then
      (between? bytes a i).map fun named => { d with stretch := some named, stage := .place }
    else if c = '\x7b' then
      (between? bytes a i).map fun named =>
        { d with stretch := if named = "" then none else some named, stage := .field (i + 1) }
    else some d
  | .field a =>
    if c = '\x7d' then
      ((between? bytes a i).bind FieldTest.ofText?).map fun test =>
        { d with field := some test, stage := .fieldEnd }
    else some d
  | .fieldEnd => if c = ']' then some { d with stage := .place } else none
  | .place => if c = '=' then some { d with stage := .level (i + 1) } else none
  | .level _ => some d

/-- Reads characters from a position on. -/
def readFrom? (bytes : List UInt8) : Nat → List Char → Draft → Option Draft
  | _, [], d => some d
  | i, c :: cs, d =>
    match next? bytes d i c with
    | none => none
    | some d' => readFrom? bytes (i + c.utf8Size) cs d'

/-- The text without blanks around it. -/
def trimmed (text : List Char) : List Char :=
  ((text.dropWhile Text.isBlank).reverse.dropWhile Text.isBlank).reverse

/-- The level at the end of a directive; an empty one stands for every level. -/
def level? (text : String) : Option Threshold :=
  if text = "" then some (some .trace) else Threshold.ofText? text

/-- A directive from its parts. -/
def ofDraft (d : Draft) (place : Option String) (threshold : Threshold) : Directive where
  place := place
  field := d.field.map (·.name)
  threshold := threshold
  needsStretch := d.stretch.isSome || d.field.any (·.hasValue)

/--
Reads a directive. The characters are those of the text without blanks around it, while positions
are counted in the text as it is.
-/
def ofText? (text : List Char) : Option Directive :=
  let bytes := Text.utf8 text
  match readFrom? bytes 0 (trimmed text) ⟨.start, none, none, none⟩ with
  | none => none
  | some d =>
    match d.stage with
    | .name a =>
      (from? bytes a).map fun name =>
        match Threshold.ofText? name with
        | some t => ofDraft d none t
        | none => ofDraft d (some name) (some .trace)
    | .level a => ((from? bytes a).bind level?).map (ofDraft d d.place)
    | .place => some (ofDraft d d.place (some .trace))
    | _ => none

/-- The directive speaks of the record. -/
def concerns (d : Directive) (r : Record) : Bool :=
  (match d.place with
    | none => true
    | some place => (Text.strip? place.toList r.target.toList).isSome) &&
  d.field.all fun f => r.fields.any (·.1 = f) || (f = "message" && r.message.isSome)

/-- The length of the place; none is shorter than all. -/
def reach (d : Directive) : Nat :=
  match d.place with
  | none => 0
  | some place => place.utf8ByteSize + 1

/--
How two directives compare in being specific: by the length of their places, then by whether they
ask for a field, and at last by the alphabet.
-/
def order (d e : Directive) : Ordering :=
  (compare d.reach e.reach).then <|
    (compare d.field.isSome e.field.isSome).then <|
      (compare d.place e.place).then (compare d.field e.field)

/-- The later directive goes before the earlier one: it is no less specific. -/
def overrules (later earlier : Directive) : Bool := (order later earlier).isGE

end Directive

end SoakRig.Log
