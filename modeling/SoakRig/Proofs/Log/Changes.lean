import Mathlib.Data.List.Induction
import SoakRig.Proofs.Environment.Answers

/-!
# Changed settings

Settings of a log are read from the environment and then changed, one change after another. The
changes of one kind go to one field, where the last of them counts, and what there are no changes for
stays as it was read. `Changed` says so of the settings that a row of changes leads to; one more change
keeps it (`Changed.apply`), so it holds of every row (`changed_applyAll`). As it speaks of each kind of
change by itself, changes of different kinds may trade places.
-/

namespace SoakRig.Log.Settings

namespace Change

/-- What a change is about. -/
inductive Kind where
  | level
  | file
  | stderr
deriving DecidableEq

def kind : Change → Kind
  | level _ => .level
  | file _ => .file
  | stderr => .stderr

/-- The text of a change of the level. -/
def level? : Change → Option String
  | level text => some text
  | file _ | stderr => none

/-- The path of a change of the file. -/
def file? : Change → Option Path
  | file path => some path
  | level _ | stderr => none

/-- The changes of one kind, in order. -/
def ofKind (kind : Kind) (changes : List Change) : List Change := changes.filter (·.kind = kind)

/-- The last part of some sort that the changes have. -/
def last? {α : Type} (part : Change → Option α) (changes : List Change) : Option α :=
  (changes.filterMap part).getLast?

variable {α : Type} {part : Change → Option α} {c : Change} {changes changes' : List Change}

lemma kind_of_level? {text : String} (is_level : c.level? = some text) : c.kind = .level := by
  cases c with
  | level text => rfl
  | file path => cases is_level
  | stderr => cases is_level

lemma kind_of_file? {path : Path} (is_file : c.file? = some path) : c.kind = .file := by
  cases c with
  | level text => cases is_file
  | file path => rfl
  | stderr => cases is_file

/-- One more change goes before the earlier ones if it has such a part. -/
lemma last?_append (changes : List Change) (c : Change) :
    last? part (changes ++ [c]) = (part c).or (last? part changes) := by
  rw [last?, last?, List.filterMap_append, List.getLast?_append]
  cases told : part c <;> simp [told]

/-- What only changes of one kind have is the same wherever the changes of that kind are. -/
lemma last?_congr {kind : Kind} (alone : ∀ {c a}, part c = some a → c.kind = kind)
    (alike : ofKind kind changes = ofKind kind changes') :
    last? part changes = last? part changes' := by
  have among : ∀ changes, (ofKind kind changes).filterMap part = changes.filterMap part := by
    intro changes
    rw [ofKind, List.filterMap_filter]
    refine List.filterMap_congr fun c _ => ?_
    cases told : part c with
    | none => simp
    | some a => simp [alone told]
  rw [last?, last?, ← among changes, ← among changes', alike]

end Change

/-! ## One change -/

section Fields

variable (s : Settings) (c : Change)

lemma level_apply : (s.apply c).level = c.level?.elim s.level .ofCommandLine := by
  cases c <;> rfl

lemma file_apply : (s.apply c).file = c.file?.elim s.file some := by
  cases c <;> rfl

lemma stderr_apply : (s.apply c).stderr = true ↔ s.stderr = true ∨ c = .stderr := by
  cases c with
  | level text => exact (or_iff_left nofun).symm
  | file path => exact (or_iff_left nofun).symm
  | stderr => exact iff_of_true rfl (.inr rfl)

lemma format_apply : (s.apply c).format = s.format := by
  cases c <;> rfl

lemma warnings_apply : (s.apply c).warnings = s.warnings := by
  cases c <;> rfl

end Fields

/-- Changes of different kinds may trade places. -/
lemma apply_comm {a b : Change} (different : a.kind ≠ b.kind) (s : Settings) :
    (s.apply a).apply b = (s.apply b).apply a := by
  cases a <;> cases b
  case level.level | file.file | stderr.stderr => exact absurd rfl different
  all_goals rfl

/-! ## A row of changes -/

/-- Where changes lead: the last one of each kind counts, and all else stays as it was. -/
structure Changed (s : Settings) (changes : List Change) (t : Settings) : Prop where
  level : t.level = (Change.last? Change.level? changes).elim s.level .ofCommandLine
  file : t.file = (Change.last? Change.file? changes).elim s.file some
  stderr : t.stderr = true ↔ s.stderr = true ∨ .stderr ∈ changes
  format : t.format = s.format
  warnings : t.warnings = s.warnings

variable {s t t' : Settings} {changes changes' : List Change}

namespace Changed

lemma refl (s : Settings) : Changed s [] s := ⟨rfl, rfl, by simp, rfl, rfl⟩

/-- One more change goes before the earlier ones of its kind. -/
lemma apply (changed : Changed s changes t) (c : Change) :
    Changed s (changes ++ [c]) (t.apply c) := by
  refine ⟨?_, ?_, ?_, ?_, ?_⟩
  · rw [level_apply, Change.last?_append, changed.level]
    cases c.level? <;> rfl
  · rw [file_apply, Change.last?_append, changed.file]
    cases c.file? <;> rfl
  · rw [stderr_apply, changed.stderr, List.mem_append, List.mem_singleton, or_assoc,
      eq_comm (a := c)]
  · rw [format_apply, changed.format]
  · rw [warnings_apply, changed.warnings]

/-- Where changes lead depends on the changes of each kind, and not on how these are mixed. -/
lemma unique (changed : Changed s changes t) (changed' : Changed s changes' t')
    (alike : ∀ kind, Change.ofKind kind changes = Change.ofKind kind changes') : t = t' := by
  have level : t.level = t'.level := by
    rw [changed.level, changed'.level, Change.last?_congr Change.kind_of_level? (alike .level)]
  have file : t.file = t'.file := by
    rw [changed.file, changed'.file, Change.last?_congr Change.kind_of_file? (alike .file)]
  have stderr : t.stderr = t'.stderr := by
    have same : Change.stderr ∈ changes ↔ Change.stderr ∈ changes' := by
      have mem := congrArg (Change.stderr ∈ ·) (alike .stderr)
      simpa [Change.ofKind, Change.kind] using mem
    rw [Bool.eq_iff_iff, changed.stderr, changed'.stderr, same]
  have format : t.format = t'.format := changed.format.trans changed'.format.symm
  have warnings : t.warnings = t'.warnings := changed.warnings.trans changed'.warnings.symm
  cases t
  cases t'
  simp_all only

end Changed

/-- Every row of changes leads where the last ones of each kind say. -/
lemma changed_applyAll (s : Settings) (changes : List Change) :
    Changed s changes (s.applyAll changes) := by
  induction changes using List.reverseRecOn with
  | nil => exact .refl s
  | append_singleton changes c ih =>
    rw [applyAll, List.foldl_append]
    exact ih.apply c

/-! ## Settings from the environment -/

section Environment

open Environment Reader

/-- What is read is one of the choices, or the default. -/
lemma value_eq_or_mem {env : Environment} {name default value : String}
    {choices : List String}
    (picks : Picks env name choices default value) : value = default ∨ value ∈ choices := by
  cases picks with
  | allowed set listed => exact .inr listed
  | refused set unlisted => exact .inl rfl
  | unset unset => exact .inl rfl

variable (env : Environment) (defaultLevel : String)

/-- The level that is read is the one that the environment has for it. -/
lemma picks_level : Picks env "LOG_LEVEL" levels defaultLevel
    (ofEnvironment env defaultLevel).level.value := by
  obtain ⟨s, e, -, value⟩ := among_spec (.ofEnvironment env) "LOG_LEVEL" levels defaultLevel
    (.level (variableName "LOG_LEVEL"))
  have read : (ofEnvironment env defaultLevel).level = s := congrArg Prod.fst e
  rw [read]
  exact value

/-- The form that is read is the one that the environment has a name for. -/
lemma picks_format : ∃ name, (ofEnvironment env defaultLevel).format = .ofName name ∧
    Picks env "LOG_FORMAT" ["pretty", "json"] "pretty" name := by
  -- the form is read after the level, from the same environment
  let r := ((Reader.ofEnvironment env).level "LOG_LEVEL" defaultLevel).2
  have same : r.environment = env :=
    environment_answer (.ofEnvironment env) (.level "LOG_LEVEL" defaultLevel)
  obtain ⟨s, e, -, value⟩ := among_spec r "LOG_FORMAT" ["pretty", "json"] "pretty"
    (.choice (variableName "LOG_FORMAT") ["pretty", "json"])
  rw [same] at value
  refine ⟨s.value, ?_, value⟩
  have read : (ofEnvironment env defaultLevel).format =
      .ofName (r.choice "LOG_FORMAT" ["pretty", "json"] "pretty").1.value := rfl
  rw [read, choice, e]

/-- Lines are written in JSON exactly if the environment asks for it, in any case. -/
lemma format_eq_json_iff : (ofEnvironment env defaultLevel).format = .json ↔
    ∃ text, env.text? (variableName "LOG_FORMAT") = some text ∧ Text.lowercase text = "json" := by
  obtain ⟨name, read, picks⟩ := picks_format env defaultLevel
  have by_name : ∀ name, Format.ofName name = .json ↔ name = "json" := by
    intro name
    unfold Format.ofName
    split <;> simp_all
  rw [read, by_name]
  cases picks with
  | @allowed text set listed => simp [set]
  | @refused text set unlisted =>
    have other : Text.lowercase text ≠ "json" := fun json => unlisted (by simp [json])
    simp [set, other]
  | unset unset => simp [unset]

end Environment

/--
Settings that were read from the environment and then changed have the level and the file of the last
change of each, as the command line gives them, or else those that were read; their lines go to
standard error exactly if a change says so; and their form and their warnings are those that were read,
whatever changes there are. Changes of different kinds may trade places, so it makes no difference how
rows of changes of several kinds are mixed.
-/
theorem applyAll_ofEnvironment (env : Environment) (defaultLevel : String)
    (changes : List Change) :
    let start := ofEnvironment env defaultLevel
    let changed := start.applyAll changes
    changed.level =
      (Change.last? Change.level? changes).elim start.level (fun text => ⟨text, .commandLine, none⟩) ∧
    changed.file = (Change.last? Change.file? changes).elim start.file some ∧
    (changed.stderr = true ↔ .stderr ∈ changes) ∧
    changed.format = start.format ∧ changed.warnings = start.warnings ∧
    (start.format = .json ↔ ∃ text,
      env.text? "FAULTLINE_LOG_FORMAT" = some text ∧ Text.lowercase text = "json") ∧
    (start.level.value = defaultLevel ∨
      start.level.value ∈ ["trace", "debug", "info", "warn", "error", "off"]) ∧
    (∀ (s : Settings) (a b : Change), a.kind ≠ b.kind → (s.apply a).apply b = (s.apply b).apply a) ∧
    ∀ others, (∀ kind, Change.ofKind kind others = Change.ofKind kind changes) →
      start.applyAll others = changed := by
  intro start changed
  have led := changed_applyAll start changes
  refine ⟨led.level, led.file, ?_, led.format, led.warnings, format_eq_json_iff env defaultLevel, ?_,
    fun s a b different => apply_comm different s, fun others alike => ?_⟩
  · have unset : ¬start.stderr = true := Bool.false_ne_true
    exact led.stderr.trans (or_iff_right unset)
  · exact value_eq_or_mem (picks_level env defaultLevel)
  · exact (changed_applyAll start others).unique led alike

/-- A level that is refused, a form in capitals, and two levels with a change of another kind between
them. -/
theorem applyAll_ofEnvironment_mixed :
    let env : Environment := {
      bindings := [("FAULTLINE_LOG_LEVEL", Text.utf8 "Loud".toList),
        ("FAULTLINE_LOG_FORMAT", Text.utf8 "JSON".toList),
        ("FAULTLINE_LOG_FILE", Text.utf8 "run.log".toList)] }
    let start := ofEnvironment env "warn"
    let changed := start.applyAll [.level "trace", .stderr, .level "debug"]
    changed.level = ⟨"debug", .commandLine, none⟩ ∧ changed.file = some "run.log" ∧
      changed.stderr = true ∧ changed.format = .json ∧
      changed.warnings = ["Invalid log level for FAULTLINE_LOG_LEVEL: Loud"] ∧
      start.level.value = "warn" ∧
      start.applyAll [.level "trace", .level "debug", .stderr] = changed ∧
      (start.apply (.file "other")).apply .stderr = (start.apply .stderr).apply (.file "other") := by
  intro env start changed
  obtain ⟨level, file, stderr, format, warnings, json, -, swap, mix⟩ :=
    applyAll_ofEnvironment env "warn" [.level "trace", .stderr, .level "debug"]
  have read : start.file = some "run.log" ∧ start.level.value = "warn" ∧
      start.warnings = ["Invalid log level for FAULTLINE_LOG_LEVEL: Loud"] := by
    decide +kernel
  refine ⟨level, file.trans read.1, stderr.2 (by simp), format.trans (json.2 ⟨"JSON", ?_⟩),
    warnings.trans read.2.2, read.2.1, mix _ fun kind => ?_, swap start _ _ (by decide)⟩
  · decide +kernel
  · cases kind <;> rfl

end SoakRig.Log.Settings
