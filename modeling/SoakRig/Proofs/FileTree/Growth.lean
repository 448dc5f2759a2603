import Mathlib.Data.List.MinMax
import SoakRig.Proofs.FileTree.Ways

/-!
# What operations leave in a file tree

A tree grows as directories are made and files are written: nothing is removed, and what stands in a
place stays there. So a path that led somewhere leads to the same place afterwards. Making a directory
adds directories on the way to it and nothing else (`Opened`). Writing a file changes what the file
holds, and adds a file if there was none (`Written`); since files lead nowhere, what can be opened
for writing is the same before and after (`Filled`).
-/

namespace SoakRig.FileTree

variable {t t' t'' : FileTree} {k : Nat} {l l' d : Location} {n : Node} {path : Path}
  {name : Name} {names : List Name} {bytes held : List UInt8}

/-- What was put at a place stands there, and the other places are as they were. -/
lemma node?_put (inside : l ≠ []) :
    (t.put l n).node? l' = if l' = l then some n else t.node? l' := by
  have kept : (t.nodes.filter (·.1 ≠ l)).find? (·.1 = l') =
      if l' = l then none else t.nodes.find? (·.1 = l') := by
    rw [List.find?_filter]
    by_cases here : l' = l
    · rw [if_pos here, List.find?_eq_none]
      simp [here]
    · rw [if_neg here]
      congr 1
      funext x
      by_cases at_x : x.1 = l' <;> simp [at_x, here]
  unfold node? put
  by_cases root : l' = []
  · simp [root, inside.symm]
  · rw [if_neg root, if_neg root, List.find?_append, kept]
    by_cases here : l' = l
    · simp [here]
    · simp [here, Ne.symm here]

/-- What was filled into a file is in it, and the other files are as they were. -/
lemma content_fill (number m : Nat) :
    (t.fill number bytes).content m = if m = number then bytes else t.content m := by
  have kept : (t.contents.filter (·.1 ≠ number)).find? (·.1 = m) =
      if m = number then none else t.contents.find? (·.1 = m) := by
    rw [List.find?_filter]
    by_cases own : m = number
    · rw [if_pos own, List.find?_eq_none]
      simp [own]
    · rw [if_neg own]
      congr 1
      funext x
      by_cases at_x : x.1 = m <;> simp [at_x, own]
  unfold content fill
  rw [List.find?_append, kept]
  by_cases own : m = number
  · simp [own]
  · simp [own, Ne.symm own]

lemma snoc_ne_nil (l : Location) (name : Name) : l ++ [name] ≠ [] :=
  List.append_ne_nil_of_right_ne_nil l (List.cons_ne_nil name [])

lemma ne_nil_of_none (missing : t.node? l = none) : l ≠ [] := by
  rintro rfl
  rw [node?, if_pos rfl] at missing
  cases missing

/-- The files in a tree have other numbers than the next one. -/
lemma node?_ne_spare (l : Location) : t.node? l ≠ some (.file t.spare) := by
  intro stands
  unfold node? at stands
  split_ifs at stands
  · cases stands
  obtain ⟨⟨l', n⟩, found, rfl⟩ := Option.map_eq_some_iff.1 stands
  have listed : t.spare ∈ t.nodes.map (·.2.number) :=
    List.mem_map.2 ⟨_, List.mem_of_find?_eq_some found, rfl⟩
  exact Nat.not_succ_le_self _ (List.le_max_of_le' 0 listed (Nat.le_refl t.spare))

/-! ## Growing -/

/-- Whatever stands in a place stays there. -/
structure Grows (t t' : FileTree) : Prop where
  here : t'.here = t.here
  node : ∀ l n, t.node? l = some n → t'.node? l = some n

/-- A leg that comes to something: where it ends something stands, or a link turns it. -/
def Leg.Settled (t : FileTree) : Leg → Prop
  | .ends l => (t.node? l).isSome
  | .fails _ => False
  | .turns .. => True

namespace Grows

/-- A tree grows when something is put where nothing stands. -/
lemma put (missing : t.node? l = none) : Grows t (t.put l n) where
  here := rfl
  node l' m h := by
    have other : l' ≠ l := by
      rintro rfl
      rw [missing] at h
      cases h
    rwa [node?_put (ne_nil_of_none missing), if_neg other]

variable (grows : Grows t t')

include grows

lemma isSome (stands : (t.node? l).isSome) : (t'.node? l).isSome := by
  obtain ⟨n, at_l⟩ := Option.isSome_iff_exists.1 stands
  rw [grows.node l n at_l]
  rfl

/-- A leg that came to something does so as before. -/
lemma leg (settled : (t.leg l names).Settled t) : t'.leg l names = t.leg l names := by
  induction names generalizing l with
  | nil => rfl
  | cons name names ih =>
    by_cases directory : t.node? l = some .directory
    · have directory' := grows.node l _ directory
      obtain ⟨l', goes⟩ | ⟨e, fails⟩ | looks := leg_cases l name
      · rw [goes t _ directory] at settled ⊢
        rw [goes t' _ directory']
        exact ih settled
      · rw [fails t _ directory] at settled
        exact settled.elim
      rw [looks t _ directory, found] at settled
      rw [looks t _ directory, looks t' _ directory', found, found]
      cases at_name : t.node? (l ++ [name]) with
      | none =>
        -- an end where nothing stands is none
        rw [at_name] at settled
        simp only at settled
        split_ifs at settled
        · rw [Leg.Settled, at_name] at settled
          cases settled
        · exact settled.elim
      | some m =>
        rw [at_name] at settled
        rw [grows.node _ m at_name]
        cases m with
        | link target => rfl
        | _ => exact ih settled
    · obtain ⟨e, fails⟩ := leg_of_other directory name
      rw [fails] at settled
      exact settled.elim

/-- A way leads to the same place as before, if something stands there. -/
lemma walks (walks : Walks t k l names d) (stands : (t.node? d).isSome) :
    Walks t' k l names d := by
  induction walks with
  | ends leg => exact .ends (by rw [grows.leg (by rwa [leg]), leg])
  | turns leg _ ih => exact .turns (by rw [grows.leg (by rw [leg]; trivial), leg]) (ih stands)

lemma start (path : Path) : t'.start path = t.start path := by
  rw [FileTree.start, FileTree.start, grows.here]

lemma resolve (leads : t.resolve path = .ok l) : t'.resolve path = .ok l := by
  obtain ⟨fine, walks, stands⟩ := resolve_eq_ok.1 leads
  refine resolve_eq_ok.2 ⟨fine, ?_, grows.isSome stands⟩
  rw [grows.start]
  exact grows.walks walks stands

lemma entry (named : t.entry path = .ok (some (d, name))) :
    t'.entry path = .ok (some (d, name)) := by
  obtain ⟨fine, walks, directory, rest⟩ := entry_eq_ok.1 named
  refine entry_eq_ok.2 ⟨fine, ?_, grows.node d _ directory, rest⟩
  rw [grows.start]
  exact grows.walks walks (by simp [directory])

end Grows

/-! ## Making directories -/

/-- The tree has directories where there was nothing, each in the place of one of the paths. -/
structure Opened (paths : List Path) (t t' : FileTree) : Prop where
  here : t'.here = t.here
  content : t'.content = t.content
  node : ∀ l, t'.node? l = t.node? l ∨ t.node? l = none ∧ t'.node? l = some .directory ∧
    ∃ p ∈ paths, t'.resolve p = .ok l

namespace Opened

lemma refl (paths : List Path) (t : FileTree) : Opened paths t t := ⟨rfl, rfl, fun _ => .inl rfl⟩

lemma grows {paths : List Path} (opened : Opened paths t t') : Grows t t' where
  here := opened.here
  node l n h := by
    obtain same | ⟨missing, -⟩ := opened.node l
    · rwa [same]
    · rw [missing] at h
      cases h

lemma trans {paths more : List Path} (first : Opened paths t t') (second : Opened more t' t'')
    (sub : paths ⊆ more) : Opened more t t'' where
  here := second.here.trans first.here
  content := second.content.trans first.content
  node l := by
    obtain same | ⟨missing, made, p, mem, leads⟩ := first.node l
    · rw [← same]
      exact second.node l
    · have grows := second.grows
      exact .inr ⟨missing, grows.node l _ made, p, sub mem, grows.resolve leads⟩

end Opened

/-- A directory that is made stands in the place of its path, where there was nothing. -/
lemma opened_of_makeDirectory (made : t.makeDirectory path = .ok t') (above : List Path) :
    Opened (path :: above) t t' ∧ t'.isDirectory path := by
  unfold makeDirectory at made
  obtain ⟨named, entry, made⟩ := bind_eq_ok.1 made
  cases named with
  | none => cases made
  | some named =>
    obtain ⟨d, name⟩ := named
    simp only at made
    split_ifs at made with found
    split at made
    · cases made
    · cases made
      have missing : t.node? (d ++ [name]) = none := by simpa using found
      have inside := snoc_ne_nil d name
      have grows : Grows t (t.put (d ++ [name]) .directory) := .put missing
      have stands : (t.put (d ++ [name]) .directory).node? (d ++ [name]) = some .directory := by
        rw [node?_put inside, if_pos rfl]
      have leads := resolve_of_entry (grows.entry entry) stands
      refine ⟨⟨rfl, rfl, fun l => ?_⟩, isDirectory_iff.2 ⟨_, leads, stands⟩⟩
      rw [node?_put inside]
      split
      · next at_l =>
        subst at_l
        exact .inr ⟨missing, rfl, path, List.mem_cons_self, leads⟩
      · exact .inl rfl

/-- A refusal is passed over if the directory is there already. -/
lemma passed_over {e : SystemError}
    (made : (if t.isDirectory path then Except.ok () else .error e, t) = (Except.ok (), t')) :
    t = t' ∧ t'.isDirectory path := by
  split_ifs at made with there
  · cases made
    exact ⟨rfl, there⟩
  · cases made

/-- What is made for a directory and those above it, if nothing refuses. -/
lemma opened_of_makeFrom {paths : List Path} (made : t.makeFrom paths = (.ok (), t')) :
    Opened paths t t' ∧ ∀ path ∈ paths.head?, path.bytes = [] ∨ t'.isDirectory path := by
  induction paths generalizing t' with
  | nil =>
    cases made
    exact ⟨.refl _ _, nofun⟩
  | cons path above ih =>
    suffices h : Opened (path :: above) t t' ∧ (path.bytes = [] ∨ t'.isDirectory path) by
      simpa using h
    rw [makeFrom] at made
    by_cases empty : path.bytes = []
    · rw [if_pos empty] at made
      cases made
      exact ⟨.refl _ _, .inl empty⟩
    · rw [if_neg empty] at made
      split at made
      · next once =>
        cases made
        obtain ⟨opened, stands⟩ := opened_of_makeDirectory once above
        exact ⟨opened, .inr stands⟩
      · -- what is above the directory is missing, and made first
        split at made
        · cases made
        · next first =>
          obtain ⟨opened, -⟩ := ih first
          have sub := List.subset_cons_self path above
          split at made
          · next twice =>
            cases made
            obtain ⟨more, stands⟩ := opened_of_makeDirectory twice above
            exact ⟨opened.trans more sub, .inr stands⟩
          · obtain ⟨rfl, there⟩ := passed_over made
            exact ⟨opened.trans (.refl _ _) sub, .inr there⟩
      · obtain ⟨rfl, there⟩ := passed_over made
        exact ⟨.refl _ _, .inr there⟩

lemma head?_ancestors (path : Path) : path.ancestors.head? = some path := by
  rw [Path.ancestors]
  cases path.bytes.length with
  | zero => rfl
  | succ n =>
    rw [Path.ancestorsUpTo]
    split <;> rfl

/-- A directory that was made is there, and nothing changed but that those on the way are there. -/
lemma opened_of_makeDirectories (made : t.makeDirectories path = (.ok (), t')) :
    Opened path.ancestors t t' ∧ (path.bytes = [] ∨ t'.isDirectory path) := by
  obtain ⟨opened, stands⟩ := opened_of_makeFrom made
  exact ⟨opened, stands path (head?_ancestors path)⟩

/-- A directory stands in the place of a path, or of one above it. -/
def MadeFor (path : Path) (t : FileTree) (l : Location) : Prop :=
  t.node? l = some .directory ∧ ∃ p ∈ path.ancestors, t.resolve p = .ok l

/-- What was made for a path is found there later on. -/
lemma Opened.madeFor (opened : Opened path.ancestors t t') (grows : Grows t' t'') (l : Location) :
    t'.node? l = t.node? l ∨ t.node? l = none ∧ MadeFor path t'' l := by
  obtain same | ⟨missing, made, p, mem, leads⟩ := opened.node l
  · exact .inl same
  · exact .inr ⟨missing, grows.node l _ made, p, mem, grows.resolve leads⟩

/-- The way to a directory that was made leads to one; the empty path stands for the working
directory. -/
lemma walks_of_makeDirectories (made : t.makeDirectories path = (.ok (), t')) :
    ∃ d, Walks t' linkLimit (t'.start path) path.names d ∧ 0 ∉ path.bytes ∧
      (t'.node? t'.here = some .directory → t'.node? d = some .directory) := by
  obtain ⟨-, empty | there⟩ := opened_of_makeDirectories made
  · obtain ⟨bytes⟩ := path
    obtain rfl : bytes = [] := empty
    exact ⟨t'.here, .ends rfl, List.not_mem_nil, id⟩
  · obtain ⟨fine, d, walks, directory⟩ := walks_of_isDirectory there
    exact ⟨d, walks, (check_eq_ok.1 fine).1, fun _ => directory⟩

/-! ## Writing files -/

/-- Files are new where there was nothing, each with a number of its own; nothing else has changed
but what files hold. -/
structure Filled (t t' : FileTree) : Prop where
  here : t'.here = t.here
  lock : t'.lock? = t.lock?
  node : ∀ l, t'.node? l = t.node? l ∨ t.node? l = none ∧ ∃ number, t'.node? l = some (.file number)
  shared : ∀ l l', t'.SameFile l l' → t.SameFile l l'

namespace Filled

lemma refl (t : FileTree) : Filled t t := ⟨rfl, rfl, fun _ => .inl rfl, fun _ _ h => h⟩

lemma trans (first : Filled t t') (second : Filled t' t'') : Filled t t'' where
  here := second.here.trans first.here
  lock := second.lock.trans first.lock
  node l := by
    obtain same | ⟨missing, number, stands⟩ := second.node l
    · rw [same]
      exact first.node l
    · obtain same | ⟨-, number', stands'⟩ := first.node l
      · exact .inr ⟨same.symm.trans missing, number, stands⟩
      · rw [missing] at stands'
        cases stands'
  shared l l' h := first.shared l l' (second.shared l l' h)

variable (filled : Filled t t')

include filled

lemma grows : Grows t t' where
  here := filled.here
  node l n h := by
    obtain same | ⟨missing, -⟩ := filled.node l
    · rwa [same]
    · rw [missing] at h
      cases h

/-- Directories and links, programs and sinks are the same ones. -/
lemma node_iff (other : ∀ number, n ≠ .file number) :
    t'.node? l = some n ↔ t.node? l = some n := by
  obtain same | ⟨missing, number, stands⟩ := filled.node l
  · rw [same]
  · rw [missing, stands]
    simp [(other number).symm]

lemma directory_iff : t'.node? l = some .directory ↔ t.node? l = some .directory :=
  filled.node_iff fun _ => Node.noConfusion

/-- New files lead nowhere: a leg comes to the same as before, or fails as before. -/
lemma leg (l : Location) (names : List Name) : t'.leg l names = t.leg l names ∨
    (∃ e, t.leg l names = .fails e) ∧ ∃ e, t'.leg l names = .fails e := by
  induction names generalizing l with
  | nil => exact .inl rfl
  | cons name names ih =>
    by_cases directory : t.node? l = some .directory
    · have directory' := filled.directory_iff.2 directory
      obtain ⟨l', goes⟩ | ⟨e, fails⟩ | looks := leg_cases l name
      · rw [goes t _ directory, goes t' _ directory']
        exact ih l'
      · rw [fails t _ directory, fails t' _ directory']
        exact .inl rfl
      rw [looks t _ directory, looks t' _ directory', found, found]
      obtain same | ⟨missing, number, stands⟩ := filled.node (l ++ [name])
      · rw [same]
        split
        · exact .inl rfl
        · exact ih (l ++ [name])
        · exact .inl rfl
      · rw [missing, stands]
        cases names with
        | nil => exact .inl rfl
        | cons next names =>
          have file : t'.node? (l ++ [name]) ≠ some .directory := by simp [stands]
          obtain ⟨e, fails⟩ := leg_of_other file next
          exact .inr ⟨⟨.notFound, rfl⟩, e, fails names⟩
    · obtain ⟨e, fails⟩ := leg_of_other directory name
      obtain ⟨e', fails'⟩ := leg_of_other (mt filled.directory_iff.1 directory) name
      exact .inr ⟨⟨e, fails names⟩, e', fails' names⟩

lemma leg_iff {g : Leg} (settled : ∀ e, g ≠ .fails e) : t'.leg l names = g ↔ t.leg l names = g := by
  obtain same | ⟨⟨e, fails⟩, e', fails'⟩ := filled.leg l names
  · rw [same]
  · rw [fails, fails']
    exact iff_of_false (settled e').symm (settled e).symm

lemma walks_iff : Walks t' k l names d ↔ Walks t k l names d := by
  constructor
  · intro walks
    induction walks with
    | ends leg => exact .ends ((filled.leg_iff fun _ => Leg.noConfusion).1 leg)
    | turns leg _ ih => exact .turns ((filled.leg_iff fun _ => Leg.noConfusion).1 leg) ih
  · intro walks
    induction walks with
    | ends leg => exact .ends ((filled.leg_iff fun _ => Leg.noConfusion).2 leg)
    | turns leg _ ih => exact .turns ((filled.leg_iff fun _ => Leg.noConfusion).2 leg) ih

lemma entry_iff : t'.entry path = .ok (some (d, name)) ↔ t.entry path = .ok (some (d, name)) := by
  rw [entry_eq_ok, entry_eq_ok, filled.grows.start, filled.walks_iff, filled.directory_iff]

/-- What can be opened is the same as before. -/
lemma opens_iff : t'.Opens path l ↔ t.Opens path l := by
  have program (name) : t'.node? l = some (.program name) ↔ t.node? l = some (.program name) :=
    filled.node_iff fun _ => Node.noConfusion
  have link (target) : t'.node? l = some (.link target) ↔ t.node? l = some (.link target) :=
    filled.node_iff fun _ => Node.noConfusion
  have sink : t'.node? l = some .sink ↔ t.node? l = some .sink :=
    filled.node_iff fun _ => Node.noConfusion
  rw [Opens, Opens, writable_eq_ok, writable_eq_ok, filled.grows.start, filled.walks_iff,
    filled.lock]
  simp only [ne_eq, filled.entry_iff, filled.directory_iff, program, link, sink]

end Filled

/-- A file of a number was given bytes. -/
structure Poured (t t' : FileTree) (number : Nat) (held : List UInt8) : Prop where
  here : t'.here = t.here
  lock : t'.lock? = t.lock?
  nodes : t'.nodes = t.nodes
  own : t'.content number = held
  others : ∀ m, m ≠ number → t'.content m = t.content m

/-- A file takes bytes up to where there is no more room. -/
lemma exists_poured (t : FileTree) (number : Nat) (kept bytes : List UInt8) :
    ∃ taken, Poured t (t.pour number kept bytes).2 number (kept ++ taken) ∧ taken <+: bytes ∧
      ((t.pour number kept bytes).1 = .ok () → taken = bytes) := by
  have filling (rooms : List (Option Room)) (held : List UInt8) :
      Poured t ({ t with rooms }.fill number held) number held := by
    refine ⟨rfl, rfl, rfl, ?_, fun m other => ?_⟩
    · rw [content_fill, if_pos rfl]
    · rw [content_fill, if_neg other]
      rfl
  unfold pour
  split_ifs with empty
  · refine ⟨[], ?_, List.nil_prefix, fun _ => empty.symm⟩
    rw [List.append_nil]
    exact filling t.rooms kept
  · simp only
    split
    · exact ⟨bytes, filling _ _, List.prefix_rfl, fun _ => rfl⟩
    · next room _ =>
      refine ⟨bytes.take room.bytes, filling _ _, List.take_prefix .., fun taken => ?_⟩
      split_ifs at taken with fits
      exact List.take_of_length_le fits

/-- A file was written in a place. -/
structure Written (t t' : FileTree) (l : Location) (held : List UInt8) : Prop where
  here : t'.here = t.here
  lock : t'.lock? = t.lock?
  /-- The file was there, or it is new and has a number of its own. -/
  file : ∃ number, t'.node? l = some (.file number) ∧ t'.content number = held ∧
    (t.node? l = some (.file number) ∨
      t.node? l = none ∧ ∀ l', t.node? l' ≠ some (.file number))
  node : ∀ l', l' ≠ l → t'.node? l' = t.node? l'
  content : ∀ number, t'.node? l ≠ some (.file number) → t'.content number = t.content number

namespace Written

variable (written : Written t t' l held)

include written

/-- By a file that is written a tree is filled. -/
lemma filled : Filled t t' := by
  obtain ⟨number, stands, -, origin⟩ := written.file
  have node (l') : t'.node? l' = t.node? l' ∨
      t.node? l' = none ∧ ∃ number, t'.node? l' = some (.file number) := by
    by_cases own : l' = l
    · subst own
      obtain there | ⟨missing, -⟩ := origin
      · exact .inl (stands.trans there.symm)
      · exact .inr ⟨missing, number, stands⟩
    · exact .inl (written.node l' own)
  -- a place that has the file afterwards had it before, or is the place of the new one
  have before {l' : Location} (own : l' ≠ l) (there : t'.node? l' = some (.file number)) :
      t.node? l' = some (.file number) ∧ t.node? l = some (.file number) := by
    rw [written.node l' own] at there
    obtain old | ⟨-, fresh⟩ := origin
    · exact ⟨there, old⟩
    · exact absurd there (fresh l')
  refine ⟨written.here, written.lock, node, ?_⟩
  rintro a b (same | ⟨m, at_a, at_b⟩)
  · exact .inl same
  by_cases first : a = l
  · subst first
    by_cases second : b = a
    · exact .inl second.symm
    · cases stands.symm.trans at_a
      exact .inr ⟨number, (before second at_b).symm⟩
  · by_cases second : b = l
    · subst second
      cases stands.symm.trans at_b
      exact .inr ⟨number, before first at_a⟩
    · exact .inr ⟨m, written.node a first ▸ at_a, written.node b second ▸ at_b⟩

/-- Another file holds what it held. -/
lemma content_of_other {number : Nat} (other : ¬t.SameFile l' l)
    (stands : t'.node? l' = some (.file number)) : t'.content number = t.content number :=
  written.content number fun own =>
    other (written.filled.shared l' l (.inr ⟨number, stands, own⟩))

end Written

/-- Bytes that are poured into the file of a place are written there. -/
lemma written_of_poured {number : Nat} (poured : Poured t t' number held)
    (stands : t.node? l = some (.file number)) : Written t t' l held where
  here := poured.here
  lock := poured.lock
  file := ⟨number, by rwa [node?, poured.nodes], poured.own, .inl stands⟩
  node l' _ := by rw [node?, poured.nodes, node?]
  content m other := poured.others m fun same => other <| by
    rw [node?, poured.nodes, same]
    exact stands

/-- An empty file is made where there was nothing. -/
lemma written_touch (missing : t.node? l = none) :
    Written t ((t.put l (.file t.spare)).fill t.spare []) l [] := by
  have inside := ne_nil_of_none missing
  have stands (l') : ((t.put l (.file t.spare)).fill t.spare []).node? l' =
      if l' = l then some (.file t.spare) else t.node? l' := node?_put inside
  refine ⟨rfl, rfl, ⟨t.spare, ?_, ?_, .inr ⟨missing, node?_ne_spare⟩⟩, fun l' other => ?_,
    fun m other => ?_⟩
  · rw [stands, if_pos rfl]
  · rw [content_fill, if_pos rfl]
  · rw [stands, if_neg other]
  · rw [stands, if_pos rfl] at other
    have others : m ≠ t.spare := fun same => other (same ▸ rfl)
    rw [content_fill, if_neg others]
    rfl

/-- A file that was made and then written was written. -/
lemma Written.again {held' : List UInt8} (first : Written t t' l held)
    (second : Written t' t'' l held') : Written t t'' l held' := by
  obtain ⟨number, stands, -, origin⟩ := first.file
  obtain ⟨number', stands', own, there | ⟨missing, -⟩⟩ := second.file
  · cases stands.symm.trans there
    refine ⟨second.here.trans first.here, second.lock.trans first.lock,
      ⟨number, stands', own, origin⟩, fun l' other => ?_, fun m other => ?_⟩
    · rw [second.node l' other, first.node l' other]
    · rw [second.content m other]
      exact first.content m (by rwa [stands, ← stands'])
  · rw [stands] at missing
    cases missing

/-- A file that can be opened is written, with all of the bytes if that is not refused. -/
lemma exists_written (opens : t.Opens path l) (bytes : List UInt8) :
    ∃ held, Written t (t.write path bytes).2 l held ∧ held <+: bytes ∧
      ((t.write path bytes).1 = .ok () → held = bytes) := by
  unfold write edit
  simp only [opens.1, touch]
  obtain missing | ⟨number, file⟩ := opens.cases
  · rw [missing]
    have touched := written_touch missing
    obtain ⟨taken, poured, front, whole⟩ :=
      exists_poured ((t.put l (.file t.spare)).fill t.spare []) t.spare [] bytes
    have stands : ((t.put l (.file t.spare)).fill t.spare []).node? l = some (.file t.spare) :=
      (node?_put (ne_nil_of_none missing)).trans (if_pos rfl)
    exact ⟨taken, touched.again (written_of_poured poured stands), front, whole⟩
  · rw [file]
    obtain ⟨taken, poured, front, whole⟩ := exists_poured t number [] bytes
    exact ⟨taken, written_of_poured poured file, front, whole⟩

/-- A path along which nothing can be opened leaves the tree as it is. -/
lemma write_of_not_opens (closed : ∀ l, ¬t.Opens path l) (bytes : List UInt8) :
    (t.write path bytes).2 = t := by
  unfold write edit
  cases writes : t.writable path with
  | error e => rfl
  | ok l =>
    -- it goes down a sink
    have sink : t.node? l = some .sink := by
      by_contra keeps
      exact closed l ⟨writes, keeps⟩
    simp only [touch, sink]

/-- What can be opened is read. -/
lemma read_of_opens {number : Nat} (opens : t.Opens path l) (stands : t.node? l = some (.file number)) :
    t.read path = .ok (t.content number) := by
  have leads : t.resolve path = .ok l := resolve_of_writable opens.1 (by rw [stands]; rfl)
  rw [read, leads]
  simp only [bind, Except.bind, stands]

end SoakRig.FileTree
