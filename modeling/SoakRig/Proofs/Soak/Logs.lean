import SoakRig.Execution
import SoakRig.Proofs.FileTree.Growth
import SoakRig.Proofs.Soak.Abreast
import SoakRig.Proofs.Soak.Lines
import SoakRig.Proofs.Text.Utf8

/-!
# The files of a soak

What a soak leaves in the files. The output of a run that ended by itself is written along the path of
its iteration. That path may be a link, and what is written there may have other names, so the last
run that writes to a file decides what is in it. `Logged` is the invariant that compares the tree with
the one in which the first iteration started. Whatever else is in the tree stays as it is.
-/

namespace SoakRig.Soak

open FileTree

variable {σ : Type} {runner : Runner σ} {config : Config} {p q : Progress σ} {dir path : Path}
  {made t : FileTree} {attempts : List Attempt} {a : Attempt} {i : Nat} {l : Location}
  {output : String}

/-! ## The names of the files -/

/-- The name of a log file is its ending behind label characters. -/
lemma exists_stem (command : List String) (index : UInt32) :
    ∃ stem, logName command index = stem ++ ".log" ∧ stem ≠ "" ∧
      ∀ c ∈ stem.toList, isLabelChar c := by
  refine ⟨String.ofList (labelChars command ++ '-' :: Decimal.padded 4 index.toNat), ?_, ?_, ?_⟩
  · rw [logName, String.ofList_append]
    rfl
  · intro empty
    have dash := congrArg ('-' ∈ String.toList ·) empty
    simp at dash
  · intro c mem
    rw [String.toList_ofList, List.mem_append, List.mem_cons] at mem
    obtain label | rfl | digit := mem
    · exact isLabelChar_of_mem label
    · decide
    · simp [isLabelChar, Char.isAlphanum, Decimal.isDigit_of_mem_padded digit]

/-- The name of a log file is made of label characters and dots. -/
lemma isLabelChar_of_mem_logName {command : List String} {index : UInt32} {c : Char}
    (mem : c ∈ (logName command index).toList) : isLabelChar c ∨ c = '.' := by
  obtain ⟨stem, whole, -, chars⟩ := exists_stem command index
  rw [whole, String.toList_append, List.mem_append] at mem
  obtain front | ending := mem
  · exact .inl (chars c front)
  · have usual : ".log".toList.all fun c => isLabelChar c || c = '.' := by decide
    simpa using List.all_eq_true.1 usual c ending

lemma toNat_lt_of_isLabelChar {c : Char} (label : isLabelChar c) : c.toNat < 0x80 := by
  simp only [isLabelChar, Bool.or_eq_true, decide_eq_true_eq] at label
  have bounded {high : Char} (le : c.val ≤ high.val) (basic : high.toNat < 0x80) : c.toNat < 0x80 :=
    Nat.lt_of_le_of_lt le basic
  obtain (alphanumeric | rfl) | rfl := label
  · obtain letter | digit := Bool.or_eq_true_iff.1 alphanumeric
    · obtain upper | lower := Bool.or_eq_true_iff.1 letter
      · exact bounded (of_decide_eq_true upper).2 (by decide)
      · exact bounded (of_decide_eq_true (Bool.and_eq_true_iff.1 lower).2) (by decide)
    · exact bounded (of_decide_eq_true (Bool.and_eq_true_iff.1 digit).2) (by decide)
  · decide
  · decide

/-- The name of a log file in bytes. -/
def logBytes (command : List String) (index : UInt32) : Name :=
  Text.utf8 (logName command index).toList

/-- The bytes of the name tell whether a basic character is in it. -/
lemma ofNat_mem_logBytes_iff {command : List String} {index : UInt32} {c : Char}
    (basic : c.toNat < 0x80) :
    UInt8.ofNat c.toNat ∈ logBytes command index ↔ c ∈ (logName command index).toList := by
  refine Text.ofNat_mem_utf8_iff (fun c mem => ?_) basic
  obtain label | rfl := isLabelChar_of_mem_logName mem
  · exact toNat_lt_of_isLabelChar label
  · decide

lemma isName_logBytes (command : List String) (index : UInt32) :
    IsName (logBytes command index) := by
  have dash : 0x2D ∈ logBytes command index :=
    (ofNat_mem_logBytes_iff (c := '-') (by decide)).2 (by simp [logName])
  refine ⟨fun empty => ?_, fun slash => ?_, fun dot => ?_, fun dots => ?_⟩
  · rw [empty] at dash
    exact absurd dash List.not_mem_nil
  · have mem := (ofNat_mem_logBytes_iff (c := '/') (by decide)).1 slash
    exact absurd (isLabelChar_of_mem_logName mem) (by decide)
  · rw [dot] at dash
    exact absurd dash (by decide)
  · rw [dots] at dash
    exact absurd dash (by decide)

lemma zero_not_mem_logBytes (command : List String) (index : UInt32) :
    0 ∉ logBytes command index := by
  intro zero
  have mem := (ofNat_mem_logBytes_iff (c := '\x00') (by decide)).1 zero
  exact absurd (isLabelChar_of_mem_logName mem) (by decide)

/-- Different iterations have files of different names. -/
lemma eq_of_logBytes_eq {command : List String} {i j : Nat} (hi : i < UInt32.size)
    (hj : j < UInt32.size)
    (same : logBytes command (UInt32.ofNat i) = logBytes command (UInt32.ofNat j)) : i = j := by
  have indices := logName_injective (String.toList_injective (Text.utf8_injective same))
  calc
    i = (UInt32.ofNat i).toNat := (UInt32.toNat_ofNat_of_lt' hi).symm
    _ = (UInt32.ofNat j).toNat := congrArg UInt32.toNat indices
    _ = j := UInt32.toNat_ofNat_of_lt' hj

/-- The paths of all files lie in the log directory. -/
lemma logPath_eq_some (found : config.logDir = some dir) {index : UInt32} :
    config.logPath index = some path ↔ path = dir.join ⟨logBytes config.command index⟩ := by
  rw [Config.logPath, found, Option.map_some, Option.some_inj, eq_comm]
  rfl

/-- An iteration whose run ended by itself, its output, and the path of its file. -/
def LogOf (config : Config) (attempts : List Attempt) (i : Nat) (output : String) (path : Path) :
    Prop :=
  ∃ a, (a, i) ∈ attempts.zipIdx 1 ∧ a.output? = some output ∧
    config.logPath (UInt32.ofNat i) = some path

/-- The log of one more attempt comes behind the others. -/
lemma logOf_snoc : LogOf config (attempts ++ [a]) i output path ↔
    LogOf config attempts i output path ∨ i = attempts.length + 1 ∧ a.output? = some output ∧
      config.logPath (UInt32.ofNat i) = some path := by
  unfold LogOf
  rw [List.zipIdx_append, List.zipIdx_singleton, Nat.add_comm 1]
  constructor
  · rintro ⟨b, mem, told⟩
    rcases List.mem_append.1 mem with old | new
    · exact .inl ⟨b, old, told⟩
    · cases List.mem_singleton.1 new
      exact .inr ⟨rfl, told⟩
  · rintro (⟨b, old, told⟩ | ⟨rfl, told⟩)
    · exact ⟨b, List.mem_append_left _ old, told⟩
    · exact ⟨a, List.mem_append_right _ (List.mem_singleton_self _), told⟩

lemma LogOf.bounds (log : LogOf config attempts i output path) : 0 < i ∧ i ≤ attempts.length := by
  obtain ⟨a, mem, -⟩ := log
  have := List.snd_lt_of_mem_zipIdx mem
  have := List.le_snd_of_mem_zipIdx mem
  omega

/-! ## The tree while the iterations run -/

/-- The files after an attempt: the output of a run that ended is written along its path. -/
def store (config : Config) (index : UInt32) (a : Attempt) (files : FileTree) : FileTree :=
  match a.output?, config.logPath index with
  | some output, some path => (files.write path (Text.utf8 output.toList)).2
  | _, _ => files

/-- The files after some attempts, which are numbered from one. -/
def kept (config : Config) (made : FileTree) (attempts : List Attempt) : FileTree :=
  (attempts.zipIdx 1).foldl (fun files (a, i) => store config (UInt32.ofNat i) a files) made

lemma kept_snoc (config : Config) (made : FileTree) (attempts : List Attempt) (a : Attempt) :
    kept config made (attempts ++ [a]) =
      store config (UInt32.ofNat (attempts.length + 1)) a (kept config made attempts) := by
  rw [kept, List.zipIdx_append, List.zipIdx_singleton, Nat.add_comm 1, List.foldl_append]
  rfl

/-- Taking note of an attempt stores its output and changes no other file. -/
lemma files_note (config : Config) (index : UInt32) (a : Attempt) (w : World) :
    (note config index a w).files = store config index a w.files := by
  cases a with
  | completed exitCode output duration =>
    rw [note, keepOutput]
    simp only [store, Attempt.output?]
    cases config.logPath index with
    | none => rfl
    | some path =>
      simp only
      split
      · next taken => rw [taken]
      · next refused => rw [refused]; rfl
  | timedOut => rfl
  | failed e => rfl

/-- No run that ended writes to what is in the place after the iteration; after iteration zero that
is no run at all. -/
def Rests (config : Config) (made : FileTree) (attempts : List Attempt) (i : Nat) (l : Location) :
    Prop :=
  ∀ j output path, i < j → LogOf config attempts j output path → ¬made.Reaches path l

/-- The output of an iteration is taken whole when it is written. -/
def Taken (config : Config) (made : FileTree) (attempts : List Attempt) (i : Nat) (output : String)
    (path : Path) : Prop :=
  ((kept config made (attempts.take (i - 1))).write path (Text.utf8 output.toList)).1 = .ok ()

lemma Rests.front (rests : Rests config made (attempts ++ [a]) i l) :
    Rests config made attempts i l :=
  fun j output path later log => rests j output path later (logOf_snoc.2 (.inl log))

/-- Later iterations make no difference to whether an output is taken. -/
lemma taken_snoc (le : i ≤ attempts.length) :
    Taken config made (attempts ++ [a]) i output path ↔
      Taken config made attempts i output path := by
  rw [Taken, List.take_append_of_le_length (by omega), Taken]

/-- What of an output is in its file: all of it if it was taken whole. -/
structure Holds (config : Config) (made : FileTree) (attempts : List Attempt) (i : Nat)
    (output : String) (path : Path) (held : List UInt8) : Prop where
  front : held <+: Text.utf8 output.toList
  whole : Taken config made attempts i output path → held = Text.utf8 output.toList

/-- Beside the tree that the iterations started in, the files of the runs that ended are there. -/
structure Logged (config : Config) (made : FileTree) (attempts : List Attempt) (t : FileTree) :
    Prop where
  filled : Filled made t
  filed : ∀ i output path l, LogOf config attempts i output path → made.Opens path l →
    Rests config made attempts i l → ∃ number, t.node? l = some (.file number) ∧
      Holds config made attempts i output path (t.content number)
  content : ∀ l number, made.node? l = some (.file number) → Rests config made attempts 0 l →
    t.content number = made.content number
  origin : ∀ l n, made.node? l = none → t.node? l = some n →
    ∃ i output path, LogOf config attempts i output path ∧ made.Opens path l

namespace Logged

/-- Before the first iteration there are no files of runs. -/
lemma start : Logged config made [] made where
  filled := .refl made
  filed i output path l log := by
    obtain ⟨a, mem, -⟩ := log
    cases mem
  content _ _ _ _ := rfl
  origin l n missing stands := by
    rw [missing] at stands
    cases stands

/-- An attempt without a file that can be opened leaves the tree as it is. -/
lemma skip (logged : Logged config made attempts t)
    (none_due : ∀ output path l, a.output? = some output →
      config.logPath (UInt32.ofNat (attempts.length + 1)) = some path → ¬made.Opens path l) :
    Logged config made (attempts ++ [a]) t where
  filled := logged.filled
  filed i output path l log opens rests := by
    obtain old | ⟨rfl, ended, at_path⟩ := logOf_snoc.1 log
    · obtain ⟨number, stands, front, whole⟩ := logged.filed i output path l old opens rests.front
      exact ⟨number, stands, front, fun taken => whole ((taken_snoc old.bounds.2).1 taken)⟩
    · exact absurd opens (none_due output path l ended at_path)
  content l number stands rests := logged.content l number stands rests.front
  origin l n missing stands := by
    obtain ⟨i, output, path, log, opens⟩ := logged.origin l n missing stands
    exact ⟨i, output, path, logOf_snoc.2 (.inl log), opens⟩

/-- A run that ended writes to its file, and to no other one. -/
lemma file {t' : FileTree} {l' : Location} {held : List UInt8}
    (logged : Logged config made attempts t) (ended : a.output? = some output)
    (at_path : config.logPath (UInt32.ofNat (attempts.length + 1)) = some path)
    (opens : made.Opens path l') (written : Written t t' l' held)
    (holds : Holds config made (attempts ++ [a]) (attempts.length + 1) output path held) :
    Logged config made (attempts ++ [a]) t' := by
  have last : LogOf config (attempts ++ [a]) (attempts.length + 1) output path :=
    logOf_snoc.2 (.inr ⟨rfl, ended, at_path⟩)
  -- what rests after an earlier iteration is not in the place that is written
  have apart {i : Nat} {l : Location} {number : Nat} (earlier : i ≤ attempts.length)
      (rests : Rests config made (attempts ++ [a]) i l)
      (stands : t.node? l = some (.file number)) : t'.content number = t.content number := by
    have other : ¬t.SameFile l l' := fun same =>
      rests _ output path (Nat.lt_succ_of_le earlier) last
        ⟨l', opens, logged.filled.shared l l' same⟩
    exact written.content_of_other other (written.filled.grows.node _ _ stands)
  refine ⟨logged.filled.trans written.filled, ?filed, ?content, ?origin⟩
  case filed =>
    intro i output' path' l log opens' rests
    obtain old | ⟨rfl, ended', at_path'⟩ := logOf_snoc.1 log
    · obtain ⟨number, stands, front, whole⟩ :=
        logged.filed i output' path' l old opens' rests.front
      refine ⟨number, written.filled.grows.node _ _ stands, ?_⟩
      rw [apart old.bounds.2 rests stands]
      exact ⟨front, fun taken => whole ((taken_snoc old.bounds.2).1 taken)⟩
    · rw [ended] at ended'
      cases ended'
      rw [at_path] at at_path'
      cases at_path'
      obtain rfl : l' = l := Except.ok.inj (opens.1.symm.trans opens'.1)
      obtain ⟨number, stands, rfl, -⟩ := written.file
      exact ⟨number, stands, holds⟩
  case content =>
    intro l number stands rests
    rw [apart (Nat.zero_le _) rests (logged.filled.grows.node _ _ stands)]
    exact logged.content l number stands rests.front
  case origin =>
    intro l n missing stands
    by_cases own : l = l'
    · exact ⟨_, output, path, last, own ▸ opens⟩
    · rw [written.node l own] at stands
      obtain ⟨i, output', path', log, opens'⟩ := logged.origin l n missing stands
      exact ⟨i, output', path', logOf_snoc.2 (.inl log), opens'⟩

lemma store (logged : Logged config made attempts (kept config made attempts)) (a : Attempt) :
    Logged config made (attempts ++ [a]) (kept config made (attempts ++ [a])) := by
  rw [kept_snoc]
  unfold Soak.store
  cases ended : a.output? with
  | none =>
    refine logged.skip fun output path l told => ?_
    rw [ended] at told
    cases told
  | some output =>
    cases at_path : config.logPath (UInt32.ofNat (attempts.length + 1)) with
    | none =>
      refine logged.skip fun output path l _ found => ?_
      rw [at_path] at found
      cases found
    | some path =>
      simp only
      by_cases due : ∃ l, made.Opens path l
      · obtain ⟨l, opens⟩ := due
        obtain ⟨held, written, front, whole⟩ :=
          exists_written (logged.filled.opens_iff.2 opens) (Text.utf8 output.toList)
        refine logged.file ended at_path opens written ⟨front, fun taken => whole ?_⟩
        rwa [Taken, Nat.add_sub_cancel, List.take_left] at taken
      · rw [write_of_not_opens fun l opens => due ⟨l, logged.filled.opens_iff.1 opens⟩]
        refine logged.skip fun output' path' l _ found opens => due ⟨l, ?_⟩
        rw [at_path] at found
        cases found
        exact opens

end Logged

/-- The files after some attempts are those of the runs that ended. -/
lemma logged_kept (config : Config) (made : FileTree) (attempts : List Attempt) :
    Logged config made attempts (kept config made attempts) := by
  induction attempts using List.reverseRecOn with
  | nil => exact .start
  | append_singleton attempts a ih => exact ih.store a

/-! ## The files of the whole soak -/

/-- The runs of the client leave the files alone. -/
def Runner.KeepsFiles (runner : Runner σ) : Prop :=
  ∀ args timeout state world, (runner.run args timeout state world).2.2.files = world.files

lemma files_of_iterate {index : UInt32} (keeps : runner.KeepsFiles)
    (turn : iterate runner config index p = (.ok a, q)) :
    q.world.files = store config index a p.world.files := by
  obtain ⟨rfl, -, e⟩ := iterate_ok turn
  have same : (call runner config index p).2.world.files = p.world.files := keeps ..
  rw [e, ← same, ← files_note]
  rfl

lemma files_pass (w : World) (d : Duration) : (w.pass d).files = w.files := rfl

@[simp] lemma files_rested {left : Nat} :
    (rested config left p).world.files = p.world.files := by
  unfold rested
  split
  · rfl
  · unfold pause
    split
    · exact files_pass ..
    · rfl

/-- The iterations leave the files of their attempts. -/
lemma files_of_iterations {left : Nat} (keeps : runner.KeepsFiles) (none_yet : p.calls = [])
    (told : iterations runner config left 1 p = (.ok (), q)) :
    q.world.files = kept config p.world.files q.attempts ∧ q.attempts.length = left := by
  have kept := iterations_induct
    (P := fun i r => i = r.attempts.length + 1 ∧
      r.world.files = kept config p.world.files r.attempts)
    (fun {i r a s} h turn => ?turn) (fun h => ?rest) (i := 1) ?start told
  case turn =>
    obtain ⟨rfl, files⟩ := h
    rw [attempts_of_iterate turn, files_of_iterate keeps turn, files, kept_snoc]
    exact ⟨by simp, rfl⟩
  case rest => simpa [Progress.attempts] using h
  case start =>
    rw [Progress.attempts, none_yet]
    exact ⟨rfl, rfl⟩
  exact ⟨kept.2, by omega⟩

/-- What stood in the files before a soak, when its directory was made, and after it. -/
structure Filed (config : Config) (dir : Path) (before made after : FileTree)
    (attempts : List Attempt) : Prop where
  /-- The file of a run that ended holds its output, if it can be opened and no later run writes to
  it as well; a write that is refused may have left a front part. -/
  completed : ∀ i output path l, LogOf config attempts i output path → made.Opens path l →
    Rests config made attempts i l → ∃ held, after.read path = .ok held ∧
      Holds config made attempts i output path held
  /-- A file of a usual name in the directory can be opened, whether it is there or not. -/
  openable : ∀ i path, config.logPath (UInt32.ofNat i) = some path →
    made.node? made.here = some .directory → path.bytes.length ≤ pathLimit →
    (logBytes config.command (UInt32.ofNat i)).length ≤ nameLimit →
    ∃ l, made.Leads path l ∧ (made.lock? l = none →
      (made.node? l = none ∨ ∃ number, made.node? l = some (.file number)) → made.Opens path l)
  /-- Paths that are no links to elsewhere, of files without other names, lead to files apart. -/
  separate : ∀ i path l, i < UInt32.size → config.logPath (UInt32.ofNat i) = some path →
    made.Plain path l → (∀ l', made.Opens path l' → l' = l) ∧
      ∀ j path' l', j < UInt32.size → j ≠ i → config.logPath (UInt32.ofNat j) = some path' →
        made.Leads path' l' → ¬made.Reaches path l'
  /-- In the place of the other files is what was there, unless a run writes to that as well; or a
  directory above the files, where there was nothing. -/
  skipped : ∀ i a path l, (a, i) ∈ attempts.zipIdx 1 → a.output? = none →
    config.logPath (UInt32.ofNat i) = some path → made.Leads path l →
    Rests config made attempts 0 l →
    (after.node? l = before.node? l ∧ ∀ number, before.node? l = some (.file number) →
      after.content number = before.content number) ∨
    before.node? l = none ∧ MadeFor dir after l
  /-- Everything that was there is there, and holds what it held unless a run writes to it. -/
  kept : ∀ l n, before.node? l = some n → after.node? l = some n ∧
    ∀ number, n = .file number → Rests config made attempts 0 l →
      after.content number = before.content number
  /-- Nothing is new but the directory, those above it, and the files of the runs that ended. -/
  added : ∀ l n, before.node? l = none → after.node? l = some n → MadeFor dir after l ∨
    (∃ number, n = .file number) ∧
      ∃ i output path, LogOf config attempts i output path ∧ made.Opens path l

/-- Paths that are no links, of files without other names, lead to files apart. -/
lemma not_reaches_of_plain {j : Nat} {path' : Path} {l' : Location}
    (found : config.logDir = some dir) (hi : i < UInt32.size) (hj : j < UInt32.size) (ne : j ≠ i)
    (at_path : config.logPath (UInt32.ofNat i) = some path)
    (at_path' : config.logPath (UInt32.ofNat j) = some path') (plain : made.Plain path l)
    (leads : made.Leads path' l') : ¬made.Reaches path l' := by
  intro reaches
  have at_l : l' = l := plain.eq_of_reaches reaches
  obtain ⟨d, name, entry, place⟩ := plain.1
  obtain ⟨d', name', entry', place'⟩ := leads
  rw [(logPath_eq_some found).1 at_path, (isName_logBytes ..).entry_join] at entry
  rw [(logPath_eq_some found).1 at_path', (isName_logBytes ..).entry_join] at entry'
  obtain ⟨-, -, -, -, own⟩ := entry
  obtain ⟨-, -, -, -, own'⟩ := entry'
  have last : d' ++ [name'] = d ++ [name] := place'.symm.trans (at_l.trans place)
  have names : name' = name := List.singleton_inj.1 (List.append_inj_right' last rfl)
  rw [own, own'] at names
  exact ne (eq_of_logBytes_eq hj hi names)

/-- All that a soak leaves in the files, if its directory was made for it. -/
lemma filed_kept {before : FileTree} (found : config.logDir = some dir)
    (making : before.makeDirectories dir = (.ok (), made)) :
    Filed config dir before made (kept config made attempts) attempts := by
  obtain ⟨d, walks, zero_free, there⟩ := walks_of_makeDirectories making
  have opened := (opened_of_makeDirectories making).1
  have logged := logged_kept config made attempts
  have node := opened.madeFor logged.filled.grows
  have held {l : Location} {number : Nat} (stands : before.node? l = some (.file number))
      (rests : Rests config made attempts 0 l) :
      (Soak.kept config made attempts).content number = before.content number := by
    rw [logged.content l number (opened.grows.node l _ stands) rests, opened.content]
  refine ⟨?completed, ?openable, ?separate, ?skipped, ?kept, ?added⟩
  case completed =>
    intro i output path l log opens rests
    obtain ⟨number, stands, holds⟩ := logged.filed i output path l log opens rests
    exact ⟨_, read_of_opens (logged.filled.opens_iff.2 opens) stands, holds⟩
  case openable =>
    intro i path at_path here short_path short
    obtain rfl := (logPath_eq_some found).1 at_path
    have named := isName_logBytes config.command (UInt32.ofNat i)
    have fine := named.check_join zero_free (zero_not_mem_logBytes _ _) short_path
    have entry := named.entry_join.2 ⟨fine, walks, there here, short, rfl⟩
    exact ⟨_, ⟨d, _, entry, rfl⟩, named.opens_join entry⟩
  case separate =>
    intro i path l hi at_path plain
    refine ⟨fun l' opens => plain.eq_of_reaches ⟨l', opens, .inl rfl⟩, ?_⟩
    intro j path' l' hj ne at_path' leads
    exact not_reaches_of_plain found hi hj ne at_path at_path' plain leads
  case skipped =>
    intro i a path l mem silent at_path leads rests
    obtain same | new := node l
    · refine .inl ⟨?_, fun number stands => held stands rests⟩
      rw [← same]
      obtain unchanged | ⟨missing, number, stands⟩ := logged.filled.node l
      · exact unchanged
      · obtain ⟨j, output, path', log, opens⟩ := logged.origin l _ missing stands
        exact absurd ⟨l, opens, .inl rfl⟩ (rests j output path' log.bounds.1 log)
    · exact .inr new
  case kept =>
    intro l n stands
    refine ⟨logged.filled.grows.node l n (opened.grows.node l n stands), ?_⟩
    rintro number rfl rests
    exact held stands rests
  case added =>
    intro l n missing stands
    obtain same | ⟨-, new⟩ := node l
    · rw [missing] at same
      obtain unchanged | ⟨-, number, file⟩ := logged.filled.node l
      · rw [unchanged, same] at stands
        cases stands
      · rw [file] at stands
        exact .inr ⟨⟨number, (Option.some.inj stands).symm⟩, logged.origin l _ same file⟩
    · exact .inl new

/-- The directory is made before the first iteration. -/
lemma files_begun {r : Except SystemError Unit} (found : config.logDir = some dir)
    (making : p.world.files.makeDirectories dir = (r, made)) :
    (begun runner config p).world.files = made := by
  unfold begun prepare
  rw [found]
  simp only [making]
  cases r <;> rfl

/--
What a soak with a log directory leaves in the files, when the runs of the client leave them alone:
the output of every run that ended, in a file that can be opened, and the directory. What is in the
files, or whether there is a log directory at all, makes no difference to the calls, to the text and
to the summary, when the runs of the client do not look at the files.
-/
theorem run_files {state : σ} {world : World} {out : Sink} {s : Summary}
    (keeps : runner.KeepsFiles) (found : config.logDir = some dir)
    (ran : run runner config (.start state world out) = (.ok s, q)) :
    q.attempts.length = config.iterations.toNat ∧
      (∃ made, world.files.makeDirectories dir = (.ok (), made) ∧
        Filed config dir world.files made q.world.files q.attempts) ∧
      (runner.Blind → ∀ logDir files, (config.into logDir).Usable files →
        ∃ q', run runner (config.into logDir) (.start state { world with files } out) =
          (.ok s, q') ∧ Abreast q q') := by
  obtain ⟨command, r, told, finished⟩ := run_ok ran
  have closing : q.world.files = r.world.files := by
    obtain ⟨-, -, e⟩ := finish_ok finished
    rw [e]
    rfl
  generalize making : world.files.makeDirectories dir = r'
  obtain ⟨_ | ⟨⟩, made⟩ := r'
  · -- a directory that cannot be made would have ended the soak
    obtain ⟨files, refused⟩ := run_of_refused (p := .start state world out) command found
      (congrArg Prod.fst making)
    rw [refused] at ran
    cases ran
  · have opening : (begun runner config (.start state world out)).world.files = made :=
      files_begun found making
    obtain ⟨files, length⟩ := files_of_iterations keeps rfl told
    rw [opening, ← closing, ← attempts_of_finish finished] at files
    rw [← attempts_of_finish finished] at length
    refine ⟨length, ⟨made, rfl, files ▸ filed_kept found making⟩, ?_⟩
    intro blind logDir files usable
    have abreast : Abreast (.start state world out) (.start state { world with files } out) :=
      ⟨rfl, ⟨rfl, rfl⟩, rfl, rfl, rfl⟩
    exact abreast.run logDir blind usable ran

lemma keepsFiles_scripted (step : Int) : (scripted step).KeepsFiles := by
  rintro args timeout ⟨_ | ⟨a, as⟩, fallback⟩ world <;> rfl

lemma blind_scripted (step : Int) : (scripted step).Blind := by
  have moved {w w' : World} (alike : Alike w w') :
      (fun d => w.clock d + step) = fun d => w'.clock d + step := by rw [alike.clock]
  rintro args timeout ⟨_ | ⟨a, as⟩, fallback⟩ w w' alike
  · exact ⟨rfl, rfl, moved alike, alike.elapsed⟩
  · exact ⟨rfl, rfl, moved alike, alike.elapsed⟩

/-- The mixed soak keeps the first output, and does the same without its directory. -/
theorem run_files_mixed :
    (scripted 0).KeepsFiles ∧ (scripted 0).Blind ∧ mixedConfig.logDir = some (.ofText "logs/today") ∧
      ∃ s q, mixedSoak .unbounded = (.ok s, q) ∧
        q.world.files.read "logs/today/add-0001.log" =
          .ok (Text.utf8 "Retriable error on attempt 1/3".toList) ∧
        ∃ q', run (scripted 0) (mixedConfig.into none)
          (.start mixedScript (.still .fresh 0) .unbounded) = (.ok s, q') ∧
            Abreast q q' := by
  obtain ⟨q, ran, -⟩ := run_unbounded (scripted 0) mixedConfig mixedScript (.still .fresh 0)
    (by decide) usable_mixed
  obtain ⟨length, ⟨made, making, filed⟩, same⟩ := run_files (keepsFiles_scripted 0) rfl ran
  refine ⟨keepsFiles_scripted 0, blind_scripted 0, rfl, _, q, ran, ?_,
    same (blind_scripted 0) none .fresh nofun⟩
  obtain rfl : (FileTree.fresh.makeDirectories "logs/today").2 = made := congrArg Prod.snd making
  have at_path : mixedConfig.logPath (UInt32.ofNat 1) = some (.ofText "logs/today/add-0001.log") := by
    decide +kernel
  have log : LogOf mixedConfig q.attempts 1 "Retriable error on attempt 1/3"
      "logs/today/add-0001.log" := by
    refine ⟨mixedScript.nth 0, ?_, rfl, at_path⟩
    rw [List.mk_mem_zipIdx_iff_le_and_getElem?_sub, attempts_scripted ran]
    exact ⟨Nat.le_refl 1, rfl⟩
  let l := FileTree.place ["tmp", "scratch", "logs", "today", "add-0001.log"]
  have missing : (FileTree.fresh.makeDirectories "logs/today").2.node? l = none := by decide +kernel
  have opens : (FileTree.fresh.makeDirectories "logs/today").2.Opens "logs/today/add-0001.log" l :=
    ⟨by decide +kernel, by rw [missing]; exact nofun⟩
  have apart : ∀ j ∈ List.range' 2 5, (FileTree.fresh.makeDirectories "logs/today").2.writable
      (Path.join "logs/today" ⟨logBytes mixedConfig.command (UInt32.ofNat j)⟩) ≠ .ok l := by
    decide +kernel
  have rests : Rests mixedConfig (FileTree.fresh.makeDirectories "logs/today").2 q.attempts 1 l := by
    rintro j output path later log ⟨l', opens', rfl | ⟨number, stands, -⟩⟩
    · obtain ⟨-, -, -, at_path⟩ := id log
      have most : j ≤ q.attempts.length := log.bounds.2
      rw [length, show mixedConfig.iterations.toNat = 6 from rfl] at most
      rw [(logPath_eq_some rfl).1 at_path] at opens'
      exact apart j (List.mem_range'_1.2 ⟨later, by omega⟩) opens'.1
    · rw [missing] at stands
      cases stands
  obtain ⟨held, read, -, whole⟩ := filed.completed 1 _ _ l log opens rests
  have taken : Taken mixedConfig (FileTree.fresh.makeDirectories "logs/today").2 q.attempts 1
      "Retriable error on attempt 1/3" "logs/today/add-0001.log" := by
    rw [Taken, Nat.sub_self, List.take_zero]
    decide +kernel
  rw [read, whole taken]

/-- As many runs as there are attempts, with log files in a directory. -/
def looseConfig (target : Target) (command : List String) (attempts : List Attempt) (dir : Path) :
    Config where
  target
  command
  iterations := UInt32.ofNat attempts.length
  sleep := .ofMilliseconds 200
  timeout := .ofWholeSeconds 30
  logDir := some dir
  verbose := false

/-- A soak of known attempts with log files in a directory of a tree. -/
def looseSoak (attempts : List Attempt) (dir : Path) (files : FileTree) :
    Except Error Summary × Progress Script :=
  run (scripted 0) (looseConfig .default ["balances"] attempts dir)
    (.start ⟨attempts, .timedOut⟩ (.still files 0) .unbounded)

/-- A soak of a client that makes a directory. -/
def makingSoak : Except Error Summary × Progress Unit :=
  run (Execution.runner .empty (.direct "sh"))
    (looseConfig (.direct "sh") ["-c", "mkdir extra"] [.timedOut] "logs")
    (.start () (.still .fresh 0) .unbounded)

/-- A run that ends at once with an output. -/
def printing (output : String) : Attempt := .completed 0 output .zero

/-- A working directory with a directory for logs, and something in the place of the first log. -/
def looseTree (first : Node) : FileTree :=
  (FileTree.fresh.put (FileTree.place ["tmp", "scratch", "logs"]) .directory).put
    (FileTree.place ["tmp", "scratch", "logs", "balances-0001.log"]) first

/-- A tree in which the first two logs are names of one file, with something in it. -/
def sharedTree : FileTree :=
  ((looseTree (.file 1)).put
    (FileTree.place ["tmp", "scratch", "logs", "balances-0002.log"]) (.file 1)).fill 1
      (Text.utf8 ['o', 'l', 'd'])

/-- The soak returns a summary, and leaves files of which something holds. -/
def Leaves (soaked : Except Error Summary × Progress σ) (P : FileTree → Prop) : Prop :=
  ∃ s q, soaked = (.ok s, q) ∧ P q.world.files

/-- With a directory that can be made a soak returns a summary. -/
lemma leaves_of_made {state : σ} {files : FileTree} {P : FileTree → Prop} (target : Target)
    {command : List String} (filled : command ≠ []) (attempts : List Attempt) (dir : Path)
    (made : (files.makeDirectories dir).1 = .ok ())
    (holds : P (run runner (looseConfig target command attempts dir)
      (.start state (.still files 0) .unbounded)).2.world.files) :
    Leaves (run runner (looseConfig target command attempts dir)
      (.start state (.still files 0) .unbounded)) P := by
  have usable : (looseConfig target command attempts dir).Usable files := by
    rintro _ ⟨⟩
    exact made
  obtain ⟨q, ran, -⟩ := run_unbounded runner (looseConfig target command attempts dir) state
    (.still files 0) filled usable
  rw [ran] at holds ⊢
  exact ⟨_, q, rfl, holds⟩

/--
What keeps more from being said. A client may leave a directory of its own. A directory made for the
files may stand in the place of a file whose run did not end. If the first path is a link to the second
one, the last run decides what both hold; if it leads out of the directory, there is a new file there;
if both are names of one file, it changes although the first run did not end. A file gets no more than a
front part if there is no more room, and nothing if it is a sink.
-/
theorem run_files_loose :
    Leaves makingSoak (fun after =>
      FileTree.fresh.node? (FileTree.place ["tmp", "scratch", "extra"]) = none ∧
        after.node? (FileTree.place ["tmp", "scratch", "extra"]) = some .directory) ∧
    Leaves (looseSoak [.timedOut] "balances-0001.log/.." .fresh) (fun after =>
      FileTree.fresh.node? (FileTree.place ["tmp", "scratch", "balances-0001.log"]) = none ∧
        after.node? (FileTree.place ["tmp", "scratch", "balances-0001.log"]) = some .directory) ∧
    Leaves (looseSoak [printing "a", printing "b"] "logs" (looseTree (.link "balances-0002.log")))
      (fun after => after.read "logs/balances-0001.log" = .ok (Text.utf8 ['b'])) ∧
    Leaves (looseSoak [printing "a"] "logs" (looseTree (.link "../notes"))) (fun after =>
      after.read "notes" = .ok (Text.utf8 ['a'])) ∧
    Leaves (looseSoak [.timedOut, printing "b"] "logs" sharedTree) (fun after =>
      sharedTree.read "logs/balances-0001.log" = .ok (Text.utf8 ['o', 'l', 'd']) ∧
        after.read "logs/balances-0001.log" = .ok (Text.utf8 ['b'])) ∧
    Leaves (looseSoak [printing "abc"] "logs" { FileTree.fresh with rooms := [some ⟨2, .noSpace⟩] })
      (fun after => after.read "logs/balances-0001.log" = .ok (Text.utf8 ['a', 'b'])) ∧
    Leaves (looseSoak [printing "a"] "logs" (looseTree .sink)) (fun after =>
      after.read "logs/balances-0001.log" = .ok []) := by
  refine ⟨leaves_of_made _ (by decide) _ _ ?_ ?_, leaves_of_made _ (by decide) _ _ ?_ ?_,
    leaves_of_made _ (by decide) _ _ ?_ ?_, leaves_of_made _ (by decide) _ _ ?_ ?_,
    leaves_of_made _ (by decide) _ _ ?_ ?_, leaves_of_made _ (by decide) _ _ ?_ ?_,
    leaves_of_made _ (by decide) _ _ ?_ ?_⟩
  all_goals decide +kernel

end SoakRig.Soak
