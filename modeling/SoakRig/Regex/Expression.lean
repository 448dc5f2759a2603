import SoakRig.Regex.CharSet
import SoakRig.Text.Alphanumeric
import SoakRig.Text.Search

/-!
# Regular expressions

Which texts are regular expressions. Groups nest, have names and flags, and look neither ahead nor
back. Counts between braces are no part of this syntax.
-/

namespace SoakRig.Regex

/-- A group that is being read. The whole expression is one, too. -/
structure OpenGroup where
  mode : Mode
  /-- The alternatives before this one. -/
  branches : Bundle
  items : Bundle
  /-- The depth of the last item, if it may be repeated. -/
  last : Option Nat

namespace OpenGroup

/-- A group of which nothing was read. -/
def start (m : Mode) : OpenGroup := ⟨m, .empty, .empty, none⟩

/-- The group with one more item of some depth. -/
def add (g : OpenGroup) (depth : Nat) : OpenGroup :=
  { g with items := g.items.add depth, last := some depth }

/-- The group in another mode from here on. -/
def withMode (g : OpenGroup) (m : Mode) : OpenGroup :=
  { g with mode := m, items := g.items.add 0, last := none }

/-- The group with its last item repeated. -/
def repeatLast? (g : OpenGroup) : Option OpenGroup :=
  g.last.map fun depth =>
    { g with items := g.items.deepen (depth + 1), last := some (depth + 1) }

/-- The group at the start of its next alternative. -/
def nextBranch (g : OpenGroup) : OpenGroup :=
  { g with branches := g.branches.add g.items.whole, items := .empty, last := none }

/-- The depth of what was read. -/
def depth (g : OpenGroup) : Nat := (g.branches.add g.items.whole).whole

end OpenGroup

/-- What stands after the bracket that opens a group. -/
inductive Opening where
  /-- Flags for the rest of the group around it. -/
  | flags (mode : Mode)
  | group (mode : Mode)
  | named (name : List Char)

namespace Opening

/-- The text is a name. -/
def isName : List Char → Bool
  | [] => false
  | c :: rest =>
    (c = '_' || Text.isAlphabetic c) &&
      rest.all fun c => ['_', '.', '[', ']'].contains c || Text.isAlphanumeric c

/-- Reads a name up to its bracket. -/
def name? (text : List Char) : Option (Opening × List Char) :=
  let (name, after) := text.span (· ≠ '>')
  if isName name ∧ after ≠ [] then some (named name, after.drop 1) else none

/-- Reads flags up to the bracket that ends them or the colon before their group. -/
def flags? (m : Mode) (text : List Char) : Option (Opening × List Char) :=
  let (letters, after) := text.span fun c => c ≠ ':' && c ≠ ')'
  if Mode.areFlags letters then
    match after with
    | ':' :: rest => some (group (m.withFlags letters), rest)
    | ')' :: rest => if letters = [] then none else some (flags (m.withFlags letters), rest)
    | _ => none
  else none

/-- The start of a look ahead or back, which there is none of. -/
def looksAround (text : List Char) : Bool :=
  ["=", "!", "<=", "<!"].any fun sign => (Text.strip? sign.toList text).isSome

/-- Reads what stands after the bracket that opens a group. -/
def read? (m : Mode) (text : List Char) : Option (Opening × List Char) :=
  match m.skip text with
  | '?' :: rest =>
    if looksAround rest then none
    else
      match rest with
      | '<' :: rest => name? rest
      | 'P' :: '<' :: rest => name? rest
      | _ => flags? m rest
  | rest => some (group m, rest)

end Opening

/-- A regular expression that is being read. -/
structure Draft where
  /-- The names of groups so far. -/
  names : List (List Char)
  /-- The groups around this one, the nearest first. -/
  outer : List OpenGroup
  group : OpenGroup

namespace Draft

def start : Draft := ⟨[], [], .start .initial⟩

/-- Goes on in a group inside this one. -/
def enter (d : Draft) (m : Mode) : Draft :=
  { d with outer := d.group :: d.outer, group := .start m }

/-- Goes on after a bracket that opens. -/
def opened? (d : Draft) : Opening → Option Draft
  | .flags m => some { d with group := d.group.withMode m }
  | .group m => some (d.enter m)
  | .named name =>
    if d.names.contains name then none
    else some { d.enter d.group.mode with names := name :: d.names }

/-- Goes on after a bracket that closes. -/
def closed? (d : Draft) : Option Draft :=
  match d.outer with
  | [] => none
  | around :: outer => some { d with outer := outer, group := around.add (d.group.depth + 1) }

/-- Goes on after an item of some depth. -/
def add (d : Draft) (depth : Nat) : Draft := { d with group := d.group.add depth }

/-- Reads what a character starts, and the rest after it. -/
def next? (d : Draft) (c : Char) (rest : List Char) : Option (Draft × List Char) :=
  let m := d.group.mode
  if c = '(' then
    match Opening.read? m rest with
    | none => none
    | some (o, rest) => (d.opened? o).map (·, rest)
  else if c = ')' then d.closed?.map (·, rest)
  else if c = '|' then some ({ d with group := d.group.nextBranch }, rest)
  else if c = '[' then (CharSet.read? m rest).map fun (depth, rest) => (d.add depth, rest)
  else if c = '?' ∨ c = '*' ∨ c = '+' then
    d.group.repeatLast?.map fun g =>
      ({ d with group := g }, if rest.head? = some '?' then rest.drop 1 else rest)
  else if c = '\x7b' then none
  else if c = '^' ∨ c = '$' then some (d.add 0, rest)
  else if c = '.' then if m.wide then some (d.add 0, rest) else none
  else (Atom.read? m (c :: rest)).map fun (_, rest) => (d.add 0, rest)

/-- Reads to the end: the depth of the expression. -/
def readFrom? : (fuel : Nat) → Draft → List Char → Option Nat
  | 0, _, _ => none
  | fuel + 1, d, text =>
    match d.group.mode.skip text with
    | [] => if d.outer.isEmpty then some d.group.depth else none
    | c :: rest =>
      match d.next? c rest with
      | none => none
      | some (d, rest) => readFrom? fuel d rest

end Draft

/-- How deep an expression may be. -/
def depthLimit : Nat := 250

/-- The text is a regular expression. -/
def isExpression (text : List Char) : Bool :=
  match Draft.readFrom? (text.length + 1) .start text with
  | none => false
  | some depth => depth ≤ depthLimit

end SoakRig.Regex
