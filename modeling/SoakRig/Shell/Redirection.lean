import SoakRig.Shell.Expansion

/-!
# Redirections

Where the descriptors of a command lead. Redirections are followed from left to right, and the first
one that is refused ends this.
-/

namespace SoakRig.Shell.Redirection

/-- Why something cannot be opened, in the words of the shell. -/
def reason (absent : String) : SystemError → String
  | .notFound => absent
  | .notADirectory => absent
  | e => e.name

/-- Leads a descriptor to a file that is opened for writing. -/
def toFile (s : Session) (r : Redirection) (path : String)
    (f : FileTree → Path → Except SystemError Unit × FileTree) : Except String Session :=
  match f s.files (Session.path path) with
  | (.error e, _) => .error ("cannot create " ++ path ++ ": " ++ reason "Directory nonexistent" e)
  | (.ok (), files) =>
    let s := { s with files }
    match files.resolve (Session.path path) with
    | .ok place =>
      let channel := if files.node? place = some .sink then Channel.null else .file place
      .ok (s.lead r.descriptor (some channel))
    | .error _ => .ok (s.lead r.descriptor (some .null))

/-- Leads a descriptor to bytes. -/
def toBytes (s : Session) (r : Redirection) (bytes : List UInt8) : Session :=
  let (s, n) := s.newBuffer (.ofBytes bytes)
  s.lead r.descriptor (some (.buffer n))

/-- Leads a descriptor to where the word says, or tells why not. -/
def follow (s : Session) (r : Redirection) (word : String) : Except String Session :=
  match r.direction with
  | .toFile => toFile s r word fun files path => files.write path []
  | .appendFile => toFile s r word fun files path => files.append path []
  | .fromText => .ok (toBytes s r (Session.toBytes word))
  | .fromFile =>
    match s.files.read (Session.path word) with
    | .ok bytes => .ok (toBytes s r bytes)
    | .error e => .error ("cannot open " ++ word ++ ": " ++ reason "No such file" e)
  | .duplicate =>
    if word = "-" then .ok (s.lead r.descriptor none)
    else
      match Decimal.natural? word.toList with
      | none => .ok (s.abort "Syntax error: Bad fd number")
      | some n =>
        match s.channel? n with
        | none => .error (word ++ ": Bad file descriptor")
        | some channel => .ok (s.lead r.descriptor (some channel))

/-- Follows redirections in order. The session is kept even if one is refused. -/
def followAll (substitute : Substitute) : List Redirection → Session → Option String × Session
  | [], s => (none, s)
  | r :: rs, s =>
    let (word, s) := Expansion.single substitute r.word s
    if !s.running then (none, s)
    else
      match follow s r word with
      | .ok s => followAll substitute rs s
      | .error e => (some e, s)

end SoakRig.Shell.Redirection
