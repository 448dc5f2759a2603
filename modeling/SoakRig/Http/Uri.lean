import SoakRig.Text.Search
import SoakRig.Text.Utf8

/-!
# Request targets

The texts that are taken as the target of a request: a path with an optional query, a lone host, or
both after a scheme. Nothing is decoded; the path is kept as it was written.
-/

namespace SoakRig.Http

/-- The target of a request. -/
structure Uri where
  path : String
  query : Option String

namespace Uri

/-- The character is outside the basic ones. -/
def foreign (c : Char) : Bool := 0x80 ≤ c.toNat

/-- The character may stand in a path. -/
def pathChar (c : Char) : Bool :=
  let n := c.toNat
  n = 0x21 || (0x24 ≤ n && n ≤ 0x3B) || n = 0x3D || (0x40 ≤ n && n ≤ 0x5F) ||
    (0x61 ≤ n && n ≤ 0x7A) || n = 0x7C || n = 0x7E || c = '"' || c = '\x7b' || c = '\x7d' ||
    foreign c

/-- The character may stand in a query. -/
def queryChar (c : Char) : Bool :=
  let n := c.toNat
  n = 0x21 || (0x24 ≤ n && n ≤ 0x3B) || n = 0x3D || (0x3F ≤ n && n ≤ 0x7E) || foreign c

/-- The character may stand in a scheme. -/
def schemeChar (c : Char) : Bool := c.isAlphanum || "+-.~".toList.contains c

/-- The character may stand in a host with its user and port. -/
def hostChar (c : Char) : Bool :=
  c.isAlphanum || "!#$&'()*+,-./:;=?@[]_~".toList.contains c

/-- What has been seen of a host. -/
structure Host where
  colons : Nat
  opened : Bool
  closed : Bool
  /-- A percent sign has been seen since the last user or bracket ended. -/
  percent : Bool
  /-- The last character ended the user. -/
  userEnded : Bool

namespace Host

def start : Host := ⟨0, false, false, false, false⟩

/-- Colons that may stand in a row of groups. -/
def colonLimit : Nat := 8

/-- Looks at one more character. -/
def next? (h : Host) (c : Char) : Option Host :=
  let h := { h with userEnded := false }
  if c = ':' then if colonLimit ≤ h.colons then none else some { h with colons := h.colons + 1 }
  else if c = '[' then if h.percent || h.opened then none else some { h with opened := true }
  else if c = ']' then
    if !h.opened || h.closed then none
    else some { h with closed := true, colons := 0, percent := false }
  else if c = '@' then some { h with userEnded := true, colons := 0, percent := false }
  else if c = '%' then some { h with percent := true }
  else if hostChar c then some h
  else none

/-- A host may end here. -/
def complete (h : Host) : Bool :=
  h.opened == h.closed && h.colons ≤ 1 && !h.userEnded && !h.percent

/-- The character ends a host. -/
def ends (c : Char) : Bool := c = '/' || c = '?' || c = '#'

/-- Reads a host, which reaches to the first character that ends one; gives what follows it. -/
def read? (h : Host) : List Char → Option (List Char)
  | [] => if h.complete then some [] else none
  | c :: cs =>
    if ends c then if h.complete then some (c :: cs) else none
    else
      match h.next? c with
      | none => none
      | some h' => h'.read? cs

end Host

/-- Reads a query up to its end or to a fragment. -/
def readQuery? (text : List Char) : Option (List Char) :=
  let query := text.takeWhile (· ≠ '#')
  if query.all queryChar then some query else none

/-- Reads a path and a query. -/
def readPath? (text : List Char) : Option (List Char × Option (List Char)) :=
  let path := text.takeWhile fun c => c ≠ '?' && c ≠ '#'
  if path.all pathChar then
    match text.drop path.length with
    | '?' :: rest => (readQuery? rest).map fun query => (path, some query)
    | _ => some (path, none)
  else none

/-- A target from its parts. -/
def ofParts (path : List Char) (query : Option (List Char)) : Uri :=
  ⟨String.ofList path, query.map String.ofList⟩

/-- Schemes have at most this many characters. -/
def schemeLimit : Nat := 64

/-- What follows the scheme of a text: nothing if it has none; refused if the scheme is too long. -/
def afterScheme (text : List Char) : Except Unit (Option (List Char)) :=
  let scheme := text.takeWhile schemeChar
  match text.drop scheme.length with
  | ':' :: '/' :: '/' :: rest =>
    if schemeLimit < scheme.length then .error () else .ok (some rest)
  | _ => .ok none

/-- Targets have at most this many bytes. -/
def sizeLimit : Nat := 65534

/-- Reads a target that does not start with a slash. -/
def readAbsolute? (text : List Char) : Option Uri :=
  match afterScheme text with
  | .error () => none
  | .ok none =>
    match Host.start.read? text with
    | some [] => some (ofParts [] none)
    | _ => none
  | .ok (some rest) =>
    match Host.start.read? rest with
    | none => none
    | some after =>
      if after.length = rest.length then none
      else
        (readPath? after).map fun (path, query) =>
          ofParts (if path = [] then ['/'] else path) query

/-- Reads the target of a request. -/
def ofText? (s : String) : Option Uri :=
  if s.utf8ByteSize = 0 ∨ sizeLimit < s.utf8ByteSize then none
  else
    match s.toList with
    | '/' :: _ => (readPath? s.toList).map fun (path, query) => ofParts path query
    | ['*'] => some (ofParts ['*'] none)
    | text => readAbsolute? text

end Uri

end SoakRig.Http
