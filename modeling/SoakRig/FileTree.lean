import SoakRig.Path
import SoakRig.SystemError

/-!
# File trees

Directories, files, links and installed programs under one root, and the operations on them that a
program can ask for: making directories, and writing, extending and reading files. What a file holds
is kept by its number, so that one file may have several names. A refused operation says why; only a
write may be refused when something has changed already, for then the file has been opened, and there
was no room for all that it should have got.
-/

namespace SoakRig

/-- A place in a tree: the names on the way from the root. -/
abbrev Location := List Name

/-- What stands at a place. -/
inductive Node where
  | directory
  /-- A file, by its number. Places of one number have the same file. -/
  | file (number : Nat)
  /-- An installed program, known by its name. -/
  | program (name : String)
  /-- Takes everything and gives nothing. -/
  | sink
  /-- Leads on along another path. -/
  | link (target : Path)
deriving DecidableEq

namespace Node

/-- The number of a file; of other things it is zero. -/
def number : Node → Nat
  | file number => number
  | _ => 0

end Node

/-- Room for so many bytes, and why there is no more. -/
structure Room where
  bytes : Nat
  refusal : SystemError
deriving DecidableEq

/-- A tree with a working directory. The root is always a directory. -/
structure FileTree where
  nodes : List (Location × Node)
  /-- What the files hold, by their numbers. -/
  contents : List (Nat × List UInt8)
  here : Location
  /-- The room that the next writes find, one after another; where none is named there is enough. -/
  rooms : List (Option Room)
  /-- Why nothing may be made or opened for writing at a place, if it may not. -/
  lock? : Location → Option SystemError

namespace FileTree

/-- What stands at a place. -/
def node? (t : FileTree) (l : Location) : Option Node :=
  if l = [] then some .directory else (t.nodes.find? (·.1 = l)).map (·.2)

/-- What the file of a number holds. -/
def content (t : FileTree) (number : Nat) : List UInt8 :=
  ((t.contents.find? (·.1 = number)).map (·.2)).getD []

/-- The tree with something put at a place. -/
def put (t : FileTree) (l : Location) (n : Node) : FileTree :=
  { t with nodes := t.nodes.filter (·.1 ≠ l) ++ [(l, n)] }

/-- The tree with other bytes in a file. -/
def fill (t : FileTree) (number : Nat) (bytes : List UInt8) : FileTree :=
  { t with contents := t.contents.filter (·.1 ≠ number) ++ [(number, bytes)] }

/-- A number that no file has. -/
def spare (t : FileTree) : Nat := (t.nodes.map (·.2.number)).foldr max 0 + 1

/-! ## Ways -/

/-- Names have at most this many bytes. -/
def nameLimit : Nat := 255

/-- Paths have at most this many bytes. -/
def pathLimit : Nat := 4095

/-- So many links are followed on one way. -/
def linkLimit : Nat := 40

/-- Where a way leads before it is turned. -/
inductive Leg where
  | ends (l : Location)
  | fails (e : SystemError)
  /-- A link in a directory turns the way, and some names are left. -/
  | turns (d : Location) (target : Path) (rest : List Name)

/-- Follows names up to the first link. Nothing has to stand where the last one leads. -/
def leg (t : FileTree) (l : Location) : List Name → Leg
  | [] => .ends l
  | name :: rest =>
    match t.node? l with
    | some .directory =>
      if name = Path.dot then t.leg l rest
      else if name = Path.dots then t.leg l.dropLast rest
      else if nameLimit < name.length then .fails .nameTooLong
      else
        match t.node? (l ++ [name]) with
        | some (.link target) => .turns l target rest
        | some _ => t.leg (l ++ [name]) rest
        | none => if rest = [] then .ends (l ++ [name]) else .fails .notFound
    | some _ => .fails .notADirectory
    | none => .fails .notFound

/-- Where a path starts that is read in a directory. -/
def startIn (d : Location) (path : Path) : Location := if path.absolute then [] else d

/-- Where the way along a path starts. -/
def start (t : FileTree) (path : Path) : Location := startIn t.here path

/-- The names on the way along a path; behind a slash at its end the way goes into a directory. -/
def way (path : Path) : List Name := path.names ++ if path.slashed then [Path.dot] else []

/-- The place that names lead to through at most so many links. -/
def walk (t : FileTree) : Nat → Location → List Name → Except SystemError Location
  | links, l, names =>
    match t.leg l names, links with
    | .ends l', _ => .ok l'
    | .fails e, _ => .error e
    | .turns .., 0 => .error .tooManyLinks
    | .turns d target rest, links + 1 => t.walk links (startIn d target) (way target ++ rest)

/-- Whatever holds of every path that can be used at all. -/
def check (path : Path) : Except SystemError Unit :=
  if path.bytes.contains 0 then .error .zeroInPath
  else if path.bytes = [] then .error .notFound
  else if pathLimit < path.bytes.length then .error .nameTooLong
  else .ok ()

/-- The place that a path leads to. -/
def resolve (t : FileTree) (path : Path) : Except SystemError Location := do
  check path
  let l ← t.walk linkLimit (t.start path) (way path)
  if (t.node? l).isSome then .ok l else .error .notFound

/-- The path leads to a directory. -/
def isDirectory (t : FileTree) (path : Path) : Bool :=
  match t.resolve path with
  | .ok l => t.node? l = some .directory
  | .error _ => false

/-- The directory that a path leads into and the last name, if the path ends in a name. A link of
that name is not followed. -/
def entry (t : FileTree) (path : Path) : Except SystemError (Option (Location × Name)) := do
  check path
  let l ← t.walk linkLimit (t.start path) path.names.dropLast
  match t.node? l with
  | none => .error .notFound
  | some .directory =>
    match path.names.getLast? with
    | none => .ok none
    | some name =>
      if name = Path.dot ∨ name = Path.dots then .ok none
      else if nameLimit < name.length then .error .nameTooLong
      else .ok (some (l, name))
  | some _ => .error .notADirectory

/-! ## Directories -/

/-- Makes one directory. -/
def makeDirectory (t : FileTree) (path : Path) : Except SystemError FileTree := do
  match ← t.entry path with
  | none => .error .alreadyExists
  | some (l, name) =>
    if (t.node? (l ++ [name])).isSome then .error .alreadyExists
    else
      match t.lock? (l ++ [name]) with
      | some e => .error e
      | none => .ok (t.put (l ++ [name]) .directory)

/-- Makes the first of the directories, and before it those of the others that are missing. -/
def makeFrom (t : FileTree) : List Path → Except SystemError Unit × FileTree
  | [] => (.ok (), t)
  | path :: above =>
    if path.bytes = [] then (.ok (), t)
    else
      match t.makeDirectory path with
      | .ok t' => (.ok (), t')
      | .error .notFound =>
        match t.makeFrom above with
        | (.error e, t') => (.error e, t')
        | (.ok (), t') =>
          match t'.makeDirectory path with
          | .ok t'' => (.ok (), t'')
          | .error e => (if t'.isDirectory path then .ok () else .error e, t')
      | .error e => (if t.isDirectory path then .ok () else .error e, t)

/-- Makes a directory with all that is missing above it. What was made before a refusal stays. -/
def makeDirectories (t : FileTree) (path : Path) : Except SystemError Unit × FileTree :=
  t.makeFrom path.ancestors

/-! ## Files -/

/-- The place that a path names for writing. Links lead on, also to where nothing stands yet. -/
def writable (t : FileTree) (path : Path) : Except SystemError Location := do
  match ← t.entry path with
  | none => .error .isADirectory
  | some _ =>
    if path.slashed then .error .isADirectory
    else
      let l ← t.walk linkLimit (t.start path) path.names
      match t.node? l with
      | some .directory => .error .isADirectory
      | some (.program _) => .error .permissionDenied
      | some (.link _) => .error .tooManyLinks
      | _ =>
        match t.lock? l with
        | some e => .error e
        | none => .ok l

/-- Opens what stands at a place, or makes a file there: the number of the file, if it is one. -/
def touch (t : FileTree) (l : Location) : Option Nat × FileTree :=
  match t.node? l with
  | none => (some t.spare, (t.put l (.file t.spare)).fill t.spare [])
  | some (.file number) => (some number, t)
  | some _ => (none, t)

/-- Gives a file what is kept of it, and behind that as many bytes as there is room for. -/
def pour (t : FileTree) (number : Nat) (kept bytes : List UInt8) :
    Except SystemError Unit × FileTree :=
  if bytes = [] then (.ok (), t.fill number kept)
  else
    let later := { t with rooms := t.rooms.tail }
    match t.rooms.head?.join with
    | none => (.ok (), later.fill number (kept ++ bytes))
    | some room =>
      (if bytes.length ≤ room.bytes then .ok () else .error room.refusal,
        later.fill number (kept ++ bytes.take room.bytes))

/-- Writes bytes to the file of a path, behind what is kept of it. -/
def edit (t : FileTree) (path : Path) (keep : List UInt8 → List UInt8) (bytes : List UInt8) :
    Except SystemError Unit × FileTree :=
  match t.writable path with
  | .error e => (.error e, t)
  | .ok l =>
    match t.touch l with
    | (none, t') => (.ok (), t')
    | (some number, t') => t'.pour number (keep (t'.content number)) bytes

/-- Writes a file, replacing what it held. -/
def write (t : FileTree) (path : Path) (bytes : List UInt8) : Except SystemError Unit × FileTree :=
  t.edit path (fun _ => []) bytes

/-- Adds to the end of a file. -/
def append (t : FileTree) (path : Path) (bytes : List UInt8) :
    Except SystemError Unit × FileTree :=
  t.edit path id bytes

/-- Adds to the end of the file at a place, as much as there is room for. -/
def extend (t : FileTree) (l : Location) (bytes : List UInt8) : FileTree :=
  match t.node? l with
  | some (.file number) => (t.pour number (t.content number) bytes).2
  | _ => t

/-- The content of the file of a path. -/
def read (t : FileTree) (path : Path) : Except SystemError (List UInt8) := do
  let l ← t.resolve path
  match t.node? l with
  | some (.file number) => .ok (t.content number)
  | some .directory => .error .isADirectory
  | _ => .ok []

/-! ## The whole tree -/

/-- The way from one place to another below it. -/
def below? : Location → Location → Option Location
  | [], l => some l
  | _ :: _, [] => none
  | a :: as, b :: bs => if a = b then below? as bs else none

/-- One place stands before another: a directory before what it holds, and names in order. -/
def before : Location → Location → Bool
  | [], _ => true
  | _ :: _, [] => false
  | a :: as, b :: bs => if a = b then before as bs else decide (a < b)

/-- What stands below the working directory, in order. -/
def listing (t : FileTree) : List (Location × Node) :=
  let found := t.nodes.filterMap fun (l, n) =>
    match below? t.here l with
    | some (name :: names) => some (name :: names, n)
    | _ => none
  found.mergeSort fun a b => before a.1 b.1

/-- The place that names in words lead to. -/
def place (names : List String) : Location := names.map fun name => Text.utf8 name.toList

/-- The programs that are installed. -/
def installed : List String := [
  "sh", "dash", "echo", "sleep", "yes", "head", "cat", "mkdir", "printf", "true", "false", "test",
  "["]

/-- A tree with the installed programs and an empty working directory. -/
def fresh : FileTree where
  nodes :=
    [(place ["bin"], .directory), (place ["usr"], .directory), (place ["usr", "bin"], .directory),
      (place ["dev"], .directory), (place ["dev", "null"], .sink), (place ["tmp"], .directory),
      (place ["tmp", "scratch"], .directory)] ++
    installed.flatMap fun name =>
      [(place ["bin", name], .program name), (place ["usr", "bin", name], .program name)]
  contents := []
  here := place ["tmp", "scratch"]
  rooms := []
  lock? := fun _ => none

end FileTree

end SoakRig
