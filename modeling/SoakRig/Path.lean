import SoakRig.Text.Pieces
import SoakRig.Text.Utf8

/-!
# Paths

Paths are rows of bytes with names between slashes, and need not be text. Joining looks at nothing but
the ends of the two rows; the name and the parent of a path leave doubled slashes and single dots out of
account.
-/

namespace SoakRig

/-- A name in a path. -/
abbrev Name := List UInt8

/-- A path, in the bytes that the system knows it by. -/
structure Path where
  bytes : List UInt8
deriving DecidableEq

namespace Path

/-- The path that a text spells. -/
def ofText (text : String) : Path := ⟨Text.utf8 text.toList⟩

instance : Coe String Path := ⟨ofText⟩

/-- The path in messages. -/
def display (path : Path) : String := Text.shown path.bytes

def slash : UInt8 := 0x2F

/-- The name of a directory in itself. -/
def dot : Name := [0x2E]

/-- The name of what holds a directory. -/
def dots : Name := [0x2E, 0x2E]

/-- The path starts at the root. -/
def absolute (path : Path) : Bool := path.bytes.head? == some slash

/-- The path asks for a directory by ending in a slash. -/
def slashed (path : Path) : Bool := path.bytes.getLast? == some slash

/-- A path seen from a directory. An absolute path stands for itself. -/
def join (base path : Path) : Path :=
  if absolute path then path
  else if base.bytes = [] ∨ slashed base then ⟨base.bytes ++ path.bytes⟩
  else ⟨base.bytes ++ slash :: path.bytes⟩

/-- What stands between the slashes, some of it perhaps empty. -/
def pieces (path : Path) : List Name := Text.pieces slash path.bytes

/-- The names on the way along the path. -/
def names (path : Path) : List Name := path.pieces.filter (· ≠ [])

theorem slashed_iff {path : Path} : path.slashed = true ↔ path.bytes.getLast? = some slash := by
  simp [slashed]

@[simp] theorem names_empty : names ⟨[]⟩ = [] := rfl

/-- A slash is between names. -/
theorem names_slash (front back : List UInt8) :
    names ⟨front ++ slash :: back⟩ = names ⟨front⟩ ++ names ⟨back⟩ := by
  simp [names, pieces, Text.pieces_append]

/-- A slash at the end makes no difference to the names. -/
theorem names_closed (stem : List UInt8) : names ⟨stem ++ [slash]⟩ = names ⟨stem⟩ := by
  rw [names_slash, names_empty, List.append_nil]

/-- A relative path stands behind the directory that it is seen from, with a slash in between. -/
theorem bytes_join {path : Path} (relative : path.absolute = false) (base : Path) :
    (base.join path).bytes = base.bytes ++
      (if base.bytes = [] ∨ base.slashed = true then [] else [slash]) ++ path.bytes := by
  rw [join, relative, if_neg Bool.false_ne_true]
  split
  · simp
  · simp

/-- The way along a joined path goes on along the second path. -/
theorem names_join {path : Path} (relative : path.absolute = false) (base : Path) :
    (base.join path).names = base.names ++ path.names := by
  obtain ⟨bytes⟩ := base
  obtain ⟨more⟩ := path
  rw [join, relative, if_neg Bool.false_ne_true]
  split
  · next open_end =>
    obtain rfl | closed := open_end
    · rfl
    · obtain ⟨stem, rfl⟩ := List.getLast?_eq_some_iff.1 (slashed_iff.1 closed)
      rw [names_closed, List.append_assoc, List.singleton_append, names_slash]
  · exact names_slash bytes more

/-- The pieces at the end of a path that name nothing, given from the end. A dot names something only
at the very start of a path. -/
def dropIdle : List Name → List Name
  | [] => []
  | [p] => if p = [] then [] else [p]
  | p :: q :: rest => if p = [] ∨ p = dot then dropIdle (q :: rest) else p :: q :: rest

/-- The pieces of a path from the end, starting with one that names something. -/
def namedPieces (path : Path) : List Name := dropIdle path.pieces.reverse

/-- The name at the end of a path, if there is one. -/
def fileName? (path : Path) : Option Name :=
  match namedPieces path with
  | [] => none
  | p :: _ => if p = dot ∨ p = dots then none else some p

/-- The path without the name at its end, if there is anything to leave out. -/
def parent? (path : Path) : Option Path :=
  match namedPieces path with
  | [] => none
  | _ :: above =>
    match dropIdle above with
    | [] => some ⟨if absolute path then [slash] else []⟩
    | rest => some ⟨[slash].intercalate rest.reverse⟩

/-- The path and its parents, at most so many. -/
def ancestorsUpTo : Nat → Path → List Path
  | 0, path => [path]
  | n + 1, path =>
    match parent? path with
    | none => [path]
    | some parent => path :: ancestorsUpTo n parent

/-- The path, its parent, the parent of that, and so on. -/
def ancestors (path : Path) : List Path := ancestorsUpTo path.bytes.length path

end Path

end SoakRig
