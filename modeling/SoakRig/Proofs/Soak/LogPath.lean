import SoakRig.Proofs.Soak.Logs

/-!
# Where log files lie

Whatever its first token is, a command gets log files that lie directly in the log directory. What
is left of the token in their names has no slash in it, and the ending keeps them from being a dot
or two. The index comes last, after a dash, so different iterations have different paths.
-/

namespace SoakRig

namespace Path

open FileTree (IsName)

variable {name : Name}

/-- The last piece of a path in a directory is the name. -/
lemma exists_pieces_join (named : IsName name) (dir : Path) :
    ∃ above, (dir.join ⟨name⟩).pieces = above ++ [name] := by
  have alone : Text.pieces slash name = [name] := Text.pieces_of_plain named.whole
  unfold join
  rw [named.relative, if_neg Bool.false_ne_true]
  split
  · next closed =>
    obtain empty | slashed := closed
    · exact ⟨[], by rw [pieces, empty, List.nil_append, alone, List.nil_append]⟩
    · -- the slash is there already
      obtain ⟨stem, at_dir⟩ := List.getLast?_eq_some_iff.1 (slashed_iff.1 slashed)
      refine ⟨Text.pieces slash stem, ?_⟩
      rw [pieces, at_dir, List.append_assoc, List.singleton_append, Text.pieces_append, alone]
  · exact ⟨dir.pieces, by rw [pieces, Text.pieces_append, alone, pieces]⟩

/-- The name at the end of a path in a directory is the name. -/
lemma fileName?_join (named : IsName name) (dir : Path) :
    (dir.join ⟨name⟩).fileName? = some name := by
  obtain ⟨above, pieces⟩ := exists_pieces_join named dir
  have starts : ∃ rest, (dir.join ⟨name⟩).namedPieces = name :: rest := by
    unfold namedPieces
    rw [pieces, List.reverse_append, List.reverse_singleton, List.singleton_append]
    cases above.reverse with
    | nil => exact ⟨[], by rw [dropIdle, if_neg named.filled]⟩
    | cons q rest =>
      have kept : ¬(name = [] ∨ name = dot) := not_or.2 ⟨named.filled, named.plain.1⟩
      exact ⟨q :: rest, by rw [dropIdle, if_neg kept]⟩
  obtain ⟨rest, starts⟩ := starts
  unfold fileName?
  rw [starts]
  exact if_neg (not_or.2 named.plain)

end Path

namespace Soak

open FileTree (IsName)

variable {config : Config} {dir : Path} {name : Name}

/-- The path is that of a file directly in a directory. -/
structure InDirectory (dir : Path) (name : Name) (path : Path) : Prop where
  /-- A slash is between the two, unless the directory ends in one or is no text at all. -/
  spelled : ∃ slash, path.bytes = dir.bytes ++ slash ++ name ∧
    (slash = [Path.slash] ∨
      slash = [] ∧ (dir.bytes = [] ∨ dir.bytes.getLast? = some Path.slash))
  fileName : path.fileName? = some name
  /-- In whatever tree the file stands, it is an entry of the place that the directory leads to. -/
  placed : ∀ (t : FileTree) d name', t.entry path = .ok (some (d, name')) →
    t.walk FileTree.linkLimit (t.start dir) dir.names = .ok d ∧ name' = name

/-- A name joined to a directory is the path of a file directly in it. -/
lemma inDirectory_join (named : IsName name) (dir : Path) :
    InDirectory dir name (dir.join ⟨name⟩) where
  spelled := by
    refine ⟨_, Path.bytes_join named.relative dir, ?_⟩
    split
    · next closed => exact .inr ⟨rfl, closed.imp_right Path.slashed_iff.1⟩
    · exact .inl rfl
  fileName := Path.fileName?_join named dir
  placed t d name' entry := by
    obtain ⟨-, walks, -, -, same⟩ := named.entry_join.1 entry
    exact ⟨FileTree.walk_eq_ok.2 walks, same⟩

/--
Log files are confined to the log directory, and each iteration has its own. Whatever the command
is, the path of an iteration is that of a file directly in the directory. The name of the file is
made of letters and digits of ASCII, underscores, dashes, and the ending; so it holds no slash and
is neither a dot nor two. Two indices never have the same path.
-/
theorem logPath_confined (found : config.logDir = some dir) :
    (∀ index, ∃ stem path, config.logPath index = some path ∧
      InDirectory dir (Text.utf8 (stem ++ ".log").toList) path ∧ stem ≠ "" ∧
      (∀ c ∈ stem.toList, c.isAlphanum ∨ c = '_' ∨ c = '-') ∧
      IsName (Text.utf8 (stem ++ ".log").toList)) ∧
    ∀ i j, config.logPath i = config.logPath j → i = j := by
  have at_path (index : UInt32) : config.logPath index =
      some (dir.join ⟨logBytes config.command index⟩) := (logPath_eq_some found).2 rfl
  refine ⟨fun index => ?_, fun i j same => ?_⟩
  · obtain ⟨stem, whole, filled, chars⟩ := exists_stem config.command index
    have named := isName_logBytes config.command index
    have inside := inDirectory_join named dir
    rw [logBytes, whole] at named inside
    refine ⟨stem, _, by rw [at_path, logBytes, whole], inside, filled, fun c mem => ?_, named⟩
    have kept := chars c mem
    simpa [isLabelChar, or_assoc] using kept
  · rw [at_path, at_path, Option.some.injEq] at same
    have first := Path.fileName?_join (isName_logBytes config.command i) dir
    rw [same, Path.fileName?_join (isName_logBytes config.command j) dir] at first
    have names := Text.utf8_injective (Option.some.inj first).symm
    exact logName_injective (String.toList_injective names)

/-- A command that tries to lead out of the log directory, and ends like a log file. -/
def astray : Config :=
  { Config.of .default ["../../\x00été/passwd-9999"] with logDir := some "logs/.." }

/-- Nothing but label characters is left of the token, also where the index needs a fifth digit. -/
theorem logPath_confined_astray :
    astray.logDir = some (.ofText "logs/..") ∧
      astray.logPath 9999 = some (.ofText "logs/../tpasswd-9999-9999.log") ∧
      astray.logPath 10000 = some (.ofText "logs/../tpasswd-9999-10000.log") ∧
      InDirectory "logs/.." (Text.utf8 "tpasswd-9999-9999.log".toList)
        "logs/../tpasswd-9999-9999.log" ∧
      astray.logPath 9999 ≠ astray.logPath 10000 := by
  have found : astray.logDir = some (.ofText "logs/..") := rfl
  have at_9999 : astray.logPath 9999 = some (.ofText "logs/../tpasswd-9999-9999.log") := by
    decide +kernel
  have at_10000 : astray.logPath 10000 = some (.ofText "logs/../tpasswd-9999-10000.log") := by
    decide +kernel
  obtain ⟨inside, apart⟩ := logPath_confined found
  obtain ⟨stem, path, at_path, lies, -⟩ := inside 9999
  obtain rfl : path = .ofText "logs/../tpasswd-9999-9999.log" :=
    Option.some.inj (at_path.symm.trans at_9999)
  have named : Path.fileName? "logs/../tpasswd-9999-9999.log" =
      some (Text.utf8 "tpasswd-9999-9999.log".toList) := by
    decide +kernel
  rw [Option.some.inj (lies.fileName.symm.trans named)] at lies
  exact ⟨found, at_9999, at_10000, lies, fun same => absurd (apart _ _ same) (by decide)⟩

end Soak

end SoakRig
