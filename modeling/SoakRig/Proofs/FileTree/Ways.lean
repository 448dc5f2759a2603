import Mathlib.Data.List.Infix
import Mathlib.Tactic.SplitIfs
import SoakRig.FileTree

/-!
# Where paths lead

A way is followed up to the first link, which turns it; `Walks` is the relation between the names on
a way and the place that they lead to in the end. Names behind other names are followed from where the
first ones lead (`leg_append`), so an entry of a directory is reached by the way to the directory and
one more name.
-/

namespace SoakRig.FileTree

variable {t : FileTree} {k : Nat} {d e l l' : Location} {name : Name} {names more : List Name}
  {path : Path}

/-- Two steps that may be refused succeed if both do. -/
lemma bind_eq_ok {ε α β : Type} {x : Except ε α} {f : α → Except ε β} {b : β} :
    x >>= f = .ok b ↔ ∃ a, x = .ok a ∧ f a = .ok b := by
  cases x <;> simp [bind, Except.bind]

/-! ## Names -/

/-- What becomes of a leg when more names follow. -/
def Leg.followed (t : FileTree) (more : List Name) : Leg → Leg
  | .ends l => t.leg l more
  | .fails e => .fails e
  | .turns d target rest => .turns d target (rest ++ more)

lemma leg_of_none (missing : t.node? l = none) (filled : names ≠ []) :
    t.leg l names = .fails .notFound := by
  cases names with
  | nil => exact absurd rfl filled
  | cons name names => rw [leg, missing]

/-- A leg that goes on with what stands under a name in a directory. -/
def found (t : FileTree) (l : Location) (name : Name) (names : List Name) : Leg :=
  match t.node? (l ++ [name]) with
  | some (.link target) => .turns l target names
  | some _ => t.leg (l ++ [name]) names
  | none => if names = [] then .ends (l ++ [name]) else .fails .notFound

/-- In a directory a name leads on to a known place, is refused, or is looked up. -/
lemma leg_cases (l : Location) (name : Name) :
    (∃ l', ∀ (t : FileTree) names, t.node? l = some .directory →
      t.leg l (name :: names) = t.leg l' names) ∨
    (∃ e, ∀ (t : FileTree) names, t.node? l = some .directory →
      t.leg l (name :: names) = .fails e) ∨
    ∀ (t : FileTree) names, t.node? l = some .directory →
      t.leg l (name :: names) = t.found l name names := by
  by_cases itself : name = Path.dot
  · refine .inl ⟨l, fun t names directory => ?_⟩
    rw [leg, directory]
    exact if_pos itself
  by_cases above : name = Path.dots
  · refine .inl ⟨l.dropLast, fun t names directory => ?_⟩
    rw [leg, directory]
    exact (if_neg itself).trans (if_pos above)
  by_cases long : nameLimit < name.length
  · refine .inr (.inl ⟨.nameTooLong, fun t names directory => ?_⟩)
    rw [leg, directory]
    exact (if_neg itself).trans ((if_neg above).trans (if_pos long))
  · refine .inr (.inr fun t names directory => ?_)
    rw [leg, directory]
    exact (if_neg itself).trans ((if_neg above).trans (if_neg long))

/-- From anything but a directory no name leads on. -/
lemma leg_of_other (other : t.node? l ≠ some .directory) (name : Name) :
    ∃ e, ∀ names, t.leg l (name :: names) = .fails e := by
  cases at_l : t.node? l with
  | none => exact ⟨.notFound, fun names => leg_of_none at_l (List.cons_ne_nil name names)⟩
  | some n =>
    refine ⟨.notADirectory, fun names => ?_⟩
    rw [leg, at_l]
    cases n with
    | directory => exact absurd at_l other
    | _ => rfl

/-- More names are followed from where the first ones lead. -/
lemma leg_append (t : FileTree) (l : Location) (names more : List Name) :
    t.leg l (names ++ more) = (t.leg l names).followed t more := by
  induction names generalizing l with
  | nil => rfl
  | cons name names ih =>
    rw [List.cons_append]
    by_cases directory : t.node? l = some .directory
    · obtain ⟨l', goes⟩ | ⟨e, fails⟩ | looks := leg_cases l name
      · rw [goes t _ directory, goes t _ directory, ih]
      · rw [fails t _ directory, fails t _ directory]
        rfl
      rw [looks t _ directory, looks t _ directory, found, found]
      split
      · rfl
      · exact ih (l ++ [name])
      · next missing =>
        -- nothing stands under the name, so that it has to be the last one
        by_cases last : names = []
        · rw [last, List.nil_append, if_pos rfl]
          by_cases alone : more = []
          · rw [alone]
            rfl
          · rw [if_neg alone]
            exact (leg_of_none missing alone).symm
        · rw [if_neg last, if_neg (by simp [last])]
          rfl
    · obtain ⟨e, fails⟩ := leg_of_other directory name
      rw [fails, fails]
      rfl

lemma leg_dot_eq_ends : t.leg l [Path.dot] = .ends l' ↔ t.node? l = some .directory ∧ l' = l := by
  rw [leg]
  split
  · next directory =>
    rw [if_pos rfl, directory]
    simp [leg, eq_comm]
  · next other at_l =>
    rw [at_l]
    refine ⟨nofun, fun h => absurd (Option.some.inj h.1) ?_⟩
    rintro rfl
    exact other rfl
  · next missing =>
    rw [missing]
    simp

/-- A name leads from a directory to its place there, unless a link stands in it. -/
lemma leg_name (directory : t.node? d = some .directory) (plain : name ≠ Path.dot ∧ name ≠ Path.dots)
    (short : name.length ≤ nameLimit)
    (straight : ∀ target, t.node? (d ++ [name]) ≠ some (.link target)) :
    t.leg d [name] = .ends (d ++ [name]) := by
  rw [leg, directory]
  simp only [if_neg plain.1, if_neg plain.2, if_neg (Nat.not_lt.2 short)]
  split
  · next found => exact absurd found (straight _)
  · rfl
  · rfl

/-! ## Ways -/

/-- Names lead to a place through at most so many links. -/
inductive Walks (t : FileTree) : Nat → Location → List Name → Location → Prop where
  | ends {k : Nat} {l l' : Location} {names : List Name} (leg : t.leg l names = .ends l') :
      Walks t k l names l'
  | turns {k : Nat} {l d l' : Location} {names rest : List Name} {target : Path}
      (leg : t.leg l names = .turns d target rest)
      (on : Walks t k (startIn d target) (way target ++ rest) l') : Walks t (k + 1) l names l'

/-- A walk that is not refused leads along the names. -/
lemma walk_eq_ok : t.walk k l names = .ok l' ↔ Walks t k l names l' := by
  constructor
  · intro walked
    induction k generalizing l names with
    | zero =>
      unfold walk at walked
      split at walked
      · next ends =>
        cases walked
        exact .ends ends
      · cases walked
      · cases walked
      · next none_left => cases none_left
    | succ k ih =>
      unfold walk at walked
      split at walked
      · next ends =>
        cases walked
        exact .ends ends
      · cases walked
      · next none_left => cases none_left
      · next turned same =>
        cases same
        exact .turns turned (ih walked)
  · intro walks
    induction walks with
    | ends leg =>
      unfold walk
      rw [leg]
    | turns leg _ ih =>
      unfold walk
      rw [leg]
      exact ih

namespace Walks

/-- The way along more names goes on from where the first names lead. -/
lemma append (walks : Walks t k l names d) (on : t.leg d more = .ends l') :
    Walks t k l (names ++ more) l' := by
  induction walks with
  | ends leg => exact .ends (by rw [leg_append, leg]; exact on)
  | turns leg _ ih =>
    refine .turns (by rw [leg_append, leg]; rfl) ?_
    rw [← List.append_assoc]
    exact ih on

/-- A dot behind a way makes no difference but that there has to be a directory. -/
lemma of_dot (walks : Walks t k l (names ++ [Path.dot]) l') :
    Walks t k l names l' ∧ t.node? l' = some .directory := by
  generalize whole : names ++ [Path.dot] = all at walks
  induction walks generalizing names with
  | ends leg =>
    subst whole
    rw [leg_append] at leg
    generalize first : t.leg _ names = g at leg
    cases g with
    | ends e =>
      obtain ⟨directory, rfl⟩ := leg_dot_eq_ends.1 leg
      exact ⟨.ends first, directory⟩
    | fails e => cases leg
    | turns d target rest => cases leg
  | turns leg _ ih =>
    subst whole
    rw [leg_append] at leg
    generalize first : t.leg _ names = g at leg
    cases g with
    | ends e =>
      -- a dot is no link
      rw [Leg.followed, FileTree.leg] at leg
      split at leg
      · rw [if_pos rfl] at leg
        cases leg
      · cases leg
      · cases leg
    | fails e => cases leg
    | turns d target rest =>
      cases leg
      obtain ⟨before, directory⟩ := ih (List.append_assoc ..)
      exact ⟨.turns first before, directory⟩

lemma unique (walks : Walks t k l names l') (other : Walks t k l names e) : e = l' := by
  rw [← walk_eq_ok] at walks other
  rw [walks] at other
  exact (Except.ok.inj other).symm

end Walks

/-! ## Paths -/

/-- A path can be used unless it is empty, too long, or has a zero in it. -/
lemma check_eq_ok : check path = .ok () ↔
    0 ∉ path.bytes ∧ path.bytes ≠ [] ∧ path.bytes.length ≤ pathLimit := by
  unfold check
  split_ifs with zero empty long
  · simp [List.contains_iff_mem.1 zero]
  · simp [empty]
  · simp [Nat.not_le_of_lt long]
  · exact iff_of_true rfl ⟨by simpa using zero, empty, Nat.le_of_not_lt long⟩

/-- A path leads to a place if the way along its names does, and something stands there. -/
lemma resolve_eq_ok : t.resolve path = .ok l ↔ check path = .ok () ∧
    Walks t linkLimit (t.start path) (way path) l ∧ (t.node? l).isSome := by
  simp only [resolve, bind_eq_ok, walk_eq_ok]
  constructor
  · rintro ⟨⟨⟩, fine, l', walks, h⟩
    split_ifs at h with stands
    cases h
    exact ⟨fine, walks, stands⟩
  · rintro ⟨fine, walks, stands⟩
    exact ⟨(), fine, l, walks, if_pos stands⟩

lemma isDirectory_iff :
    t.isDirectory path ↔ ∃ l, t.resolve path = .ok l ∧ t.node? l = some .directory := by
  unfold isDirectory
  cases t.resolve path with
  | error e => simp
  | ok l => simp

/-- A path that leads to a directory leads there without the slash at its end. -/
lemma walks_of_isDirectory (there : t.isDirectory path) : check path = .ok () ∧
    ∃ d, Walks t linkLimit (t.start path) path.names d ∧ t.node? d = some .directory := by
  obtain ⟨d, leads, directory⟩ := isDirectory_iff.1 there
  obtain ⟨fine, walks, -⟩ := resolve_eq_ok.1 leads
  refine ⟨fine, d, ?_, directory⟩
  unfold way at walks
  split at walks
  · exact walks.of_dot.1
  · rwa [List.append_nil] at walks

/-- A path names an entry of a directory if the way to its last name leads to that directory. -/
lemma entry_eq_ok : t.entry path = .ok (some (d, name)) ↔ check path = .ok () ∧
    Walks t linkLimit (t.start path) path.names.dropLast d ∧ t.node? d = some .directory ∧
      path.names.getLast? = some name ∧ (name ≠ Path.dot ∧ name ≠ Path.dots) ∧
      name.length ≤ nameLimit := by
  simp only [entry, bind_eq_ok, walk_eq_ok]
  constructor
  · rintro ⟨⟨⟩, fine, d', walks, h⟩
    split at h
    · cases h
    · next directory =>
      split at h
      · cases h
      · next last =>
        split_ifs at h with dots long
        · cases h
        · cases h
          exact ⟨fine, walks, directory, last, not_or.1 dots, Nat.le_of_not_lt long⟩
    · cases h
  · rintro ⟨fine, walks, directory, last, plain, short⟩
    refine ⟨(), fine, d, walks, ?_⟩
    rw [directory, last]
    simp only [if_neg (not_or.2 plain), if_neg (Nat.not_lt.2 short)]

lemma names_eq_snoc (last : path.names.getLast? = some name) :
    path.names = path.names.dropLast ++ [name] :=
  (List.dropLast_append_getLast? name last).symm

/-- The way along all names leads to the place of the entry, unless a link stands there. -/
lemma walks_of_entry (named : t.entry path = .ok (some (d, name)))
    (straight : ∀ target, t.node? (d ++ [name]) ≠ some (.link target)) :
    Walks t linkLimit (t.start path) path.names (d ++ [name]) := by
  obtain ⟨-, walks, directory, last, plain, short⟩ := entry_eq_ok.1 named
  rw [names_eq_snoc last]
  exact walks.append (leg_name directory plain short straight)

/-- A directory in the place of an entry is where the path leads. -/
lemma resolve_of_entry (named : t.entry path = .ok (some (d, name)))
    (stands : t.node? (d ++ [name]) = some .directory) : t.resolve path = .ok (d ++ [name]) := by
  obtain ⟨fine, -⟩ := entry_eq_ok.1 named
  have walks := walks_of_entry named (by simp [stands])
  refine resolve_eq_ok.2 ⟨fine, ?_, by simp [stands]⟩
  unfold way
  split
  · exact walks.append (leg_dot_eq_ends.2 ⟨stands, rfl⟩)
  · rwa [List.append_nil]

/-- A file can be written along a path that names an entry and leads to where no directory, program
or link stands, if that place is not locked. -/
lemma writable_eq_ok : t.writable path = .ok l ↔
    (∃ d name, t.entry path = .ok (some (d, name))) ∧ path.slashed = false ∧
      Walks t linkLimit (t.start path) path.names l ∧ t.node? l ≠ some .directory ∧
      (∀ program, t.node? l ≠ some (.program program)) ∧
      (∀ target, t.node? l ≠ some (.link target)) ∧ t.lock? l = none := by
  simp only [writable, bind_eq_ok]
  constructor
  · rintro ⟨_ | ⟨d, name⟩, entry, h⟩
    · cases h
    · simp only at h
      split_ifs at h with slash
      obtain ⟨l', walks, h⟩ := bind_eq_ok.1 h
      rw [walk_eq_ok] at walks
      split at h
      · cases h
      · cases h
      · cases h
      · next other program link =>
        split at h
        · cases h
        · next unlocked =>
          cases h
          exact ⟨⟨d, name, entry⟩, by simpa using slash, walks, other, program, link, unlocked⟩
  · rintro ⟨⟨d, name, entry⟩, slash, walks, other, program, link, unlocked⟩
    refine ⟨some (d, name), entry, ?_⟩
    simp only [slash, Bool.false_eq_true, if_false]
    refine bind_eq_ok.2 ⟨l, walk_eq_ok.2 walks, ?_⟩
    split
    · next found => exact absurd found other
    · next found => exact absurd found (program _)
    · next found => exact absurd found (link _)
    · rw [unlocked]

/-- A path leads to what can be written along it, if that is there. -/
lemma resolve_of_writable (writes : t.writable path = .ok l) (stands : (t.node? l).isSome) :
    t.resolve path = .ok l := by
  obtain ⟨⟨d, name, entry⟩, slash, walks, -⟩ := writable_eq_ok.1 writes
  obtain ⟨fine, -⟩ := entry_eq_ok.1 entry
  refine resolve_eq_ok.2 ⟨fine, ?_, stands⟩
  rwa [way, slash, if_neg Bool.false_ne_true, List.append_nil]

/-! ## Where files are written -/

/-- A path ends in the name of a place in a directory, where something may stand or not. -/
def Leads (t : FileTree) (path : Path) (l : Location) : Prop :=
  ∃ d name, t.entry path = .ok (some (d, name)) ∧ l = d ++ [name]

/-- A path can be opened for writing and leads to a place that keeps what is written. -/
def Opens (t : FileTree) (path : Path) (l : Location) : Prop :=
  t.writable path = .ok l ∧ t.node? l ≠ some .sink

/-- Two places are one, or have the same file. -/
def SameFile (t : FileTree) (l l' : Location) : Prop :=
  l = l' ∨ ∃ n, t.node? l = some (.file n) ∧ t.node? l' = some (.file n)

/-- Writing along the path changes what is in the place. -/
def Reaches (t : FileTree) (path : Path) (l : Location) : Prop :=
  ∃ l', t.Opens path l' ∧ t.SameFile l l'

/-- The path ends in the name of a place where no link stands, and no file that has other names. -/
def Plain (t : FileTree) (path : Path) (l : Location) : Prop :=
  t.Leads path l ∧ (∀ target, t.node? l ≠ some (.link target)) ∧
    ∀ l' n, t.node? l = some (.file n) → t.node? l' = some (.file n) → l' = l

/-- What can be opened is a file, or nothing stands in its place. -/
lemma Opens.cases (opens : t.Opens path l) :
    t.node? l = none ∨ ∃ n, t.node? l = some (.file n) := by
  obtain ⟨writes, keeps⟩ := opens
  obtain ⟨-, -, -, other, program, link, -⟩ := writable_eq_ok.1 writes
  cases at_l : t.node? l with
  | none => exact .inl rfl
  | some n =>
    cases n with
    | directory => exact absurd at_l other
    | file number => exact .inr ⟨number, rfl⟩
    | program name => exact absurd at_l (program name)
    | sink => exact absurd at_l keeps
    | link target => exact absurd at_l (link target)

/-- A path is opened where it leads, unless a link stands there. -/
lemma Leads.eq_of_opens (leads : t.Leads path l) (straight : ∀ target, t.node? l ≠ some (.link target))
    (opens : t.Opens path l') : l' = l := by
  obtain ⟨d, name, entry, rfl⟩ := leads
  obtain ⟨-, -, walks, -⟩ := writable_eq_ok.1 opens.1
  exact (walks_of_entry entry straight).unique walks

/-- A plain path reaches no other place than its own. -/
lemma Plain.eq_of_reaches (plain : t.Plain path l) (reaches : t.Reaches path l') : l' = l := by
  obtain ⟨leads, straight, single⟩ := plain
  obtain ⟨p, opens, same⟩ := reaches
  obtain rfl := leads.eq_of_opens straight opens
  obtain rfl | ⟨n, at_l', at_p⟩ := same
  · rfl
  · exact single _ n at_p at_l'

/-! ## Files in a directory -/

/-- The name may stand for a file in a directory. -/
structure IsName (name : Name) : Prop where
  filled : name ≠ []
  whole : Path.slash ∉ name
  plain : name ≠ Path.dot ∧ name ≠ Path.dots

namespace IsName

variable (named : IsName name)

include named

lemma relative : Path.absolute ⟨name⟩ = false := by
  have whole := named.whole
  unfold Path.absolute
  cases name with
  | nil => rfl
  | cons c cs =>
    rw [List.mem_cons, not_or] at whole
    simpa using Ne.symm whole.1

lemma names_alone : Path.names ⟨name⟩ = [name] := by
  rw [Path.names, Path.pieces, Text.pieces_of_plain named.whole]
  simp [named.filled]

lemma names_join (dir : Path) : (dir.join ⟨name⟩).names = dir.names ++ [name] := by
  rw [Path.names_join named.relative, named.names_alone]

lemma slashed_join (dir : Path) : (dir.join ⟨name⟩).slashed = false := by
  rw [← Bool.not_eq_true, Path.slashed_iff, Path.bytes_join named.relative,
    List.getLast?_append_of_ne_nil _ named.filled]
  exact fun last => named.whole (List.mem_of_getLast? last)

lemma start_join (dir : Path) : t.start (dir.join ⟨name⟩) = t.start dir := by
  have same : (dir.join ⟨name⟩).absolute = dir.absolute := by
    by_cases empty : dir.bytes = []
    · rw [Path.absolute, Path.bytes_join named.relative, empty, if_pos (.inl rfl), Path.absolute,
        empty]
      exact named.relative
    · rw [Path.absolute, Path.bytes_join named.relative, List.append_assoc,
        List.head?_append_of_ne_nil _ empty, Path.absolute]
  rw [start, startIn, same, start, startIn]

/-- A path in a directory can be used if it is not too long and has no zero in it. -/
lemma check_join {dir : Path} (zero_free : 0 ∉ dir.bytes) (zero_free' : 0 ∉ name)
    (short : (dir.join ⟨name⟩).bytes.length ≤ pathLimit) : check (dir.join ⟨name⟩) = .ok () := by
  refine check_eq_ok.2 ⟨?_, ?_, short⟩
  · rw [Path.bytes_join named.relative, List.mem_append, List.mem_append, not_or, not_or]
    refine ⟨⟨zero_free, ?_⟩, zero_free'⟩
    split
    · exact List.not_mem_nil
    · decide
  · rw [Path.bytes_join named.relative]
    simp [named.filled]

/-- A file in a directory is an entry of the place that the directory leads to. -/
lemma entry_join {dir : Path} : t.entry (dir.join ⟨name⟩) = .ok (some (d, name')) ↔
    check (dir.join ⟨name⟩) = .ok () ∧ Walks t linkLimit (t.start dir) dir.names d ∧
      t.node? d = some .directory ∧ name.length ≤ nameLimit ∧ name' = name := by
  rw [entry_eq_ok, named.start_join, named.names_join, List.dropLast_concat, List.getLast?_concat,
    Option.some_inj]
  constructor
  · rintro ⟨fine, walks, directory, rfl, -, short⟩
    exact ⟨fine, walks, directory, short, rfl⟩
  · rintro ⟨fine, walks, directory, short, rfl⟩
    exact ⟨fine, walks, directory, rfl, named.plain, short⟩

/-- A file in a directory can be opened if nothing or a file is in its place, which is not locked. -/
lemma opens_join {dir : Path} (entry : t.entry (dir.join ⟨name⟩) = .ok (some (d, name)))
    (unlocked : t.lock? (d ++ [name]) = none)
    (free : t.node? (d ++ [name]) = none ∨ ∃ n, t.node? (d ++ [name]) = some (.file n)) :
    t.Opens (dir.join ⟨name⟩) (d ++ [name]) := by
  have straight : ∀ target, t.node? (d ++ [name]) ≠ some (.link target) := by
    obtain missing | ⟨n, file⟩ := free
    · simp [missing]
    · simp [file]
  have walks := walks_of_entry entry straight
  refine ⟨writable_eq_ok.2 ⟨⟨d, name, entry⟩, named.slashed_join dir, walks, ?_, ?_, straight,
    unlocked⟩, ?_⟩
  all_goals
    obtain missing | ⟨n, file⟩ := free
    · simp [missing]
    · simp [file]

end IsName

end SoakRig.FileTree
