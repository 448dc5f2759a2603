import SoakRig.Proofs.Environment.Answers
import SoakRig.Proofs.Text.Utf8

/-!
# Paths below the home directory

A path setting may begin with a mark that stands for the home directory. What follows the mark is
joined to the home directory and leads on from there (`Below`), unless it begins with a slash itself:
then it is an absolute path, and joining drops the home directory. A path without the mark is taken as
it is.
-/

namespace SoakRig.Environment

open Reader

variable {env : Environment} {home : Path} {rest value name : String}

/-- The path begins with the home directory, ends with the rest, and leads through the one and then
through the other. -/
structure Below (home : Path) (rest : String) (path : Path) : Prop where
  front : home.bytes <+: path.bytes
  back : Text.utf8 rest.toList <:+ path.bytes
  /-- A slash is between the two, unless the home directory ends in one. -/
  spelled : path.bytes = home.bytes ++
    (if home.bytes.getLast? = some Path.slash then [] else [Path.slash]) ++ Text.utf8 rest.toList
  way : path.names = home.names ++ (Path.ofText rest).names

/-- A relative path joined to an absolute one leads on from there. -/
lemma below_join (absolute : home.absolute = true) (relative : Path.absolute rest = false) :
    Below home rest (home.join rest) := by
  have filled : home.bytes ≠ [] := by
    intro empty
    rw [Path.absolute, empty] at absolute
    cases absolute
  have spelled := Path.bytes_join relative home
  simp only [filled, false_or, Path.slashed_iff] at spelled
  refine ⟨?_, ?_, spelled, Path.names_join relative home⟩
  · rw [spelled, List.append_assoc]
    exact List.prefix_append ..
  · rw [spelled]
    exact List.suffix_append ..

/-- An absolute path stands for itself wherever it is joined to. -/
lemma join_of_absolute (absolute : Path.absolute rest = true) (base : Path) :
    base.join rest = rest := by
  rw [Path.join, if_pos absolute]

/-- The home directory of the user: the one that is set, or without one the one on record. -/
inductive HasHome (env : Environment) (home : Path) : Prop where
  | set (found : env.bytes? "HOME" = some home.bytes) : HasHome env home
  | recorded (unset : ∀ bytes, env.bytes? "HOME" = some bytes → bytes = [])
      (known : env.recordedHome = some home) : HasHome env home

/-- The home directory is found. -/
lemma HasHome.home? (has : HasHome env home) (filled : home.bytes ≠ []) :
    env.home? = some home := by
  unfold Environment.home?
  cases has with
  | set found =>
    rw [found, Option.filter_some, if_pos (by simpa using filled)]
    rfl
  | recorded unset known =>
    have none_set : (env.bytes? "HOME").filter (· ≠ []) = none := by
      cases found : env.bytes? "HOME" with
      | none => rfl
      | some bytes => simp [unset bytes found]
    rw [none_set, known]
    rfl

/-- The mark gives way to the home directory. -/
lemma expandHome_mark (at_home : env.home? = some home) (rest : String) :
    env.expandHome ("~/" ++ rest) = home.join rest := by
  have marked : Text.strip? homeMark ("~/" ++ rest).toList = some rest.toList := by
    rw [String.toList_append]
    exact Text.strip?_append homeMark rest.toList
  rw [expandHome, marked, at_home]
  exact congrArg (fun text => home.join (.ofText text)) String.ofList_toList

/-- A path without the mark is taken as it is. -/
lemma expandHome_unmarked (unmarked : ¬"~/".toList <+: value.toList) :
    env.expandHome value = value := by
  have other : Text.strip? homeMark value.toList = none := by
    rw [← Option.not_isSome_iff_eq_none, Text.isSome_strip?_iff]
    exact unmarked
  rw [expandHome, other]

/-- What a path setting of the environment is read as, by a reader and for a log. -/
structure Resolves (env : Environment) (name : String) (path : Option Path) : Prop where
  /-- It makes no difference what the reader has refused before. -/
  asked : ∀ pending, ((Reader.mk env pending).path name).value = path
  logged : name = "LOG_FILE" →
    ∀ defaultLevel, (Log.Settings.ofEnvironment env defaultLevel).file = path

/-- The file of a log is what a reader answers when it is asked for nothing but the file. -/
lemma file_ofEnvironment (env : Environment) (defaultLevel : String) :
    (Log.Settings.ofEnvironment env defaultLevel).file =
      ((Reader.ofEnvironment env).path "LOG_FILE").value := by
  let earlier : List Call :=
    [.level "LOG_LEVEL" defaultLevel, .choice "LOG_FORMAT" ["pretty", "json"] "pretty"]
  let r := ((Reader.ofEnvironment env).answers earlier).2
  have same : r.environment = env := environment_answers (.ofEnvironment env) earlier
  -- a path is read from the environment, whatever was refused before
  have read : (Log.Settings.ofEnvironment env defaultLevel).file =
      ((Reader.ofEnvironment r.environment).path "LOG_FILE").value := rfl
  rw [read, same]

/-- A setting that is a text is the path that the text stands for; an empty one is none. -/
lemma resolves_of_text (set : env.text? (variableName name) = some value) :
    Resolves env name (if value = "" then none else some (env.expandHome value)) := by
  have asked : ∀ pending, ((Reader.mk env pending).path name).value =
      if value = "" then none else some (env.expandHome value) := by
    intro pending
    have read : (Reader.mk env pending).path name = (.ofEnvironment
        ((if value = "" then none else some value : Option String).map env.expandHome)
        (variableName name)) := by
      rw [Reader.path, Reader.text, set]
      rfl
    rw [read, apply_ite (Option.map env.expandHome)]
    rfl
  refine ⟨asked, ?_⟩
  rintro rfl defaultLevel
  exact (file_ofEnvironment env defaultLevel).trans (asked [])

/--
A path setting with the mark resolves below the home directory if what follows the mark is a relative
path. An absolute path behind the mark is taken alone, and the home directory is lost. A text without
the mark is taken as it is, and an empty one counts as no path.
-/
theorem path_below_home (env : Environment) (name : String) :
    (∀ (home : Path) rest, home.absolute = true → HasHome env home →
      env.text? (variableName name) = some ("~/" ++ rest) →
      (Path.absolute rest = false → ∃ path, Below home rest path ∧ Resolves env name (some path)) ∧
      (Path.absolute rest = true → Resolves env name (some rest))) ∧
    ∀ value : String, ¬"~/".toList <+: value.toList → env.expandHome value = value ∧
      (env.text? (variableName name) = some value →
        Resolves env name (if value = "" then none else some value)) := by
  refine ⟨fun home rest absolute has set => ?_, fun value unmarked => ?_⟩
  · have filled : home.bytes ≠ [] := by
      intro empty
      rw [Path.absolute, empty] at absolute
      cases absolute
    have marked : "~/" ++ rest ≠ "" := by simp
    have resolves := resolves_of_text set
    rw [if_neg marked, expandHome_mark (has.home? filled)] at resolves
    refine ⟨fun relative => ⟨_, below_join absolute relative, resolves⟩, fun alone => ?_⟩
    rwa [join_of_absolute alone] at resolves
  · have kept : env.expandHome value = value := expandHome_unmarked unmarked
    refine ⟨kept, fun set => ?_⟩
    have resolves := resolves_of_text set
    rwa [kept] at resolves

/-- A home directory that ends with a slash and is no text, a rest with a blank and doubled slashes, and
a mark of another kind. -/
theorem path_below_home_spaced :
    let env : Environment := {
      bindings := [("HOME", Text.utf8 "/home/".toList ++ [0xFF, 0x2F]),
        ("FAULTLINE_LOG_FILE", Text.utf8 "~/a b//c.log".toList),
        ("FAULTLINE_TRACE", Text.utf8 "~ü/x".toList)] }
    Resolves env "LOG_FILE" (some ⟨Text.utf8 "/home/".toList ++ [0xFF, 0x2F] ++
        Text.utf8 "a b//c.log".toList⟩) ∧
      Resolves env "TRACE" (some "~ü/x") := by
  intro env
  have marked := (path_below_home env "LOG_FILE").1
    ⟨Text.utf8 "/home/".toList ++ [0xFF, 0x2F]⟩ "a b//c.log" (by decide) (.set (by decide +kernel))
    (by decide +kernel)
  have unmarked := (path_below_home env "TRACE").2 "~ü/x" (by decide)
  obtain ⟨path, below, resolves⟩ := marked.1 (by decide)
  obtain rfl : path = ⟨Text.utf8 "/home/".toList ++ [0xFF, 0x2F] ++ Text.utf8 "a b//c.log".toList⟩ :=
    congrArg Path.mk (below.spelled.trans (by decide))
  exact ⟨resolves, unmarked.2 (by decide +kernel)⟩

/-- Behind the mark an absolute path drops the home directory. -/
theorem path_below_home_dropped :
    ¬∃ path, Below "/home/u" "/x.log" path ∧
      Resolves
        { bindings := [("HOME", Text.utf8 "/home/u".toList),
            ("FAULTLINE_LOG_FILE", Text.utf8 "~//x.log".toList)] }
        "LOG_FILE" (some path) := by
  rintro ⟨path, below, resolves⟩
  have read := resolves.asked []
  have dropped : ((Reader.mk
      { bindings := [("HOME", Text.utf8 "/home/u".toList),
          ("FAULTLINE_LOG_FILE", Text.utf8 "~//x.log".toList)] } []).path "LOG_FILE").value =
        some (Path.ofText "/x.log") := by
    decide +kernel
  obtain rfl : path = Path.ofText "/x.log" := Option.some.inj (read.symm.trans dropped)
  exact absurd below.front (by decide)

end SoakRig.Environment
