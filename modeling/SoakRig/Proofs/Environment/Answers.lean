import Mathlib.Data.List.Forall2
import SoakRig.Log.Settings

/-!
# What a reader of the environment answers

A reader keeps a list of refusals between its calls, and nothing else. So each setting is settled by
the call and the environment alone (`Fits`), while the refusals are kept in an account: what was taken
so far and what is still pending are together what the calls so far had to refuse, in order. One call
keeps the account (`take_answer`), and so does a run of calls (`take_answers`).
-/

namespace SoakRig.Environment.Reader

/-- The text of the variable of a name, if it is none of some choices in any case. -/
def offending? (env : Environment) (name : String) (choices : List String) : Option String :=
  (env.text? (variableName name)).filter fun text => !choices.contains (Text.lowercase text)

/-- What a call has to refuse. -/
def refusals (env : Environment) : Call → List Refusal
  | .choice name choices _ =>
    ((offending? env name choices).map (.choice (variableName name) choices)).toList
  | .level name _ => ((offending? env name levels).map (.level (variableName name))).toList
  | .text _ | .path _ | .take => []

/-- What a reply hands over. -/
def Reply.refusals : Reply → List Refusal
  | .taken refusals => refusals
  | .required _ | .optional _ | .located _ => []

/-- The setting names the variable exactly if the variable is set to a text, and else the default. -/
structure Sourced {α : Type} (env : Environment) (name : String) (s : Setting α) : Prop where
  variable_iff : s.source = .environment ∧ s.variableName = some (variableName name) ↔
    (env.text? (variableName name)).isSome
  default_iff : s.source = .default ∧ s.variableName = none ↔ env.text? (variableName name) = none

/-- The value for a name that stands for one of some choices. -/
inductive Picks (env : Environment) (name : String) (choices : List String) (default : String) :
    String → Prop where
  | allowed {text} (set : env.text? (variableName name) = some text)
      (listed : Text.lowercase text ∈ choices) :
      Picks env name choices default (Text.lowercase text)
  | refused {text} (set : env.text? (variableName name) = some text)
      (unlisted : Text.lowercase text ∉ choices) : Picks env name choices default default
  | unset (unset : env.text? (variableName name) = none) : Picks env name choices default default

/-- The text for a name, if there is one. -/
inductive Offers (env : Environment) (name : String) : Option String → Prop where
  | given {text} (set : env.text? (variableName name) = some text) (some_text : text ≠ "") :
      Offers env name (some text)
  | blank (set : env.text? (variableName name) = some "") : Offers env name none
  | unset (unset : env.text? (variableName name) = none) : Offers env name none

/-- The reply is what the environment has for the call. -/
inductive Fits (env : Environment) : Call → Reply → Prop where
  | choice {name choices default s} (source : Sourced env name s)
      (value : Picks env name choices default s.value) :
      Fits env (.choice name choices default) (.required s)
  | level {name default s} (source : Sourced env name s)
      (value : Picks env name levels default s.value) :
      Fits env (.level name default) (.required s)
  | text {name s} (source : Sourced env name s) (value : Offers env name s.value) :
      Fits env (.text name) (.optional s)
  | path {name s text} (source : Sourced env name s) (offered : Offers env name text)
      (value : s.value = text.map env.expandHome) : Fits env (.path name) (.located s)
  | take {refusals} : Fits env .take (.taken refusals)

variable {env : Environment} {r : Reader} {name default : String} {choices : List String}

/-! ## One call -/

lemma sourced_ofDefault {α : Type} {value : α} (unset : env.text? (variableName name) = none) :
    Sourced env name (.ofDefault value) := by
  constructor <;> simp [Setting.ofDefault, unset]

lemma sourced_ofEnvironment {α : Type} {value : α} {text : String}
    (set : env.text? (variableName name) = some text) :
    Sourced env name (.ofEnvironment value (variableName name)) := by
  constructor <;> simp [Setting.ofEnvironment, set]

/-- All that the choice of a setting does: the setting is settled, and an offending text is refused. -/
lemma among_spec (r : Reader) (name : String) (choices : List String) (default : String)
    (refusal : String → Refusal) :
    ∃ s, r.among name choices default refusal =
        (s, { r with
          pending := r.pending ++ ((offending? r.environment name choices).map refusal).toList }) ∧
      Sourced r.environment name s ∧ Picks r.environment name choices default s.value := by
  cases set : r.environment.text? (variableName name) with
  | none =>
    refine ⟨.ofDefault default, ?_, sourced_ofDefault set, .unset set⟩
    simp only [among, offending?, set, Option.filter_none, Option.map_none, Option.toList_none,
      List.append_nil]
  | some text =>
    by_cases listed : Text.lowercase text ∈ choices
    · refine ⟨.ofEnvironment (Text.lowercase text) (variableName name), ?_,
        sourced_ofEnvironment set, .allowed set listed⟩
      have kept : choices.contains (Text.lowercase text) = true := List.contains_iff_mem.2 listed
      simp only [among, offending?, set, kept, Option.filter_some, Bool.not_true, if_true,
        if_neg Bool.false_ne_true, Option.map_none, Option.toList_none, List.append_nil]
    · refine ⟨.ofEnvironment default (variableName name), ?_, sourced_ofEnvironment set,
        .refused set listed⟩
      have kept : choices.contains (Text.lowercase text) = false := by simpa using listed
      simp only [among, offending?, set, kept, refuse, Option.filter_some, Bool.not_false, if_true,
        if_neg Bool.false_ne_true, Option.map_some, Option.toList_some]

lemma fst_among (r : Reader) (name : String) (choices : List String) (default : String)
    (refusal : String → Refusal) :
    (r.among name choices default refusal).1 =
      ((ofEnvironment r.environment).among name choices default refusal).1 := by
  unfold among ofEnvironment
  dsimp only
  split
  · rfl
  · split <;> rfl

lemma text_spec (r : Reader) (name : String) :
    Sourced r.environment name (r.text name) ∧ Offers r.environment name (r.text name).value := by
  cases set : r.environment.text? (variableName name) with
  | none =>
    simp only [text, set]
    exact ⟨sourced_ofDefault set, .unset set⟩
  | some value =>
    simp only [text, set]
    refine ⟨sourced_ofEnvironment set, ?_⟩
    by_cases blank : value = ""
    · simp only [Setting.ofEnvironment, if_pos blank]
      exact .blank (blank ▸ set)
    · simp only [Setting.ofEnvironment, if_neg blank]
      exact .given set blank

/-- A call leaves the environment as it is. -/
@[simp] lemma environment_answer (r : Reader) (call : Call) :
    (r.answer call).2.environment = r.environment := by
  cases call with
  | choice name choices default =>
    obtain ⟨s, e, -⟩ := r.among_spec name choices default _
    rw [answer, choice, e]
  | level name default =>
    obtain ⟨s, e, -⟩ := r.among_spec name levels default _
    rw [answer, level, e]
  | text name => rfl
  | path name => rfl
  | take => rfl

/-- A call is answered with what the environment has for it. -/
lemma fits_answer (r : Reader) (call : Call) : Fits r.environment call (r.answer call).1 := by
  cases call with
  | choice name choices default =>
    obtain ⟨s, e, source, value⟩ := r.among_spec name choices default _
    rw [answer, choice, e]
    exact .choice source value
  | level name default =>
    obtain ⟨s, e, source, value⟩ := r.among_spec name levels default _
    rw [answer, level, e]
    exact .level source value
  | text name => exact .text (r.text_spec name).1 (r.text_spec name).2
  | path name =>
    obtain ⟨⟨variable_iff, default_iff⟩, offered⟩ := r.text_spec name
    exact .path ⟨variable_iff, default_iff⟩ offered rfl
  | take => exact .take

/-- Earlier calls make no difference to what is read. -/
lemma answer_alone (r : Reader) {call : Call} (get : call ≠ .take) :
    (r.answer call).1 = ((ofEnvironment r.environment).answer call).1 := by
  cases call with
  | choice name choices default => exact congrArg Reply.required (r.fst_among ..)
  | level name default => exact congrArg Reply.required (r.fst_among ..)
  | text name => rfl
  | path name => rfl
  | take => exact absurd rfl get

/-- A call adds what it has to refuse to what is pending, and what it hands over is pending no more. -/
lemma take_answer (r : Reader) (call : Call) :
    (r.answer call).1.refusals ++ (r.answer call).2.pending =
      r.pending ++ refusals r.environment call := by
  cases call with
  | choice name choices default =>
    obtain ⟨s, e, -⟩ := r.among_spec name choices default _
    rw [answer, choice, e]
    rfl
  | level name default =>
    obtain ⟨s, e, -⟩ := r.among_spec name levels default _
    rw [answer, level, e]
    rfl
  | text name => simp [answer, Reply.refusals, refusals]
  | path name => simp [answer, Reply.refusals, refusals]
  | take => rfl

/-! ## A run of calls -/

lemma answers_cons (r : Reader) (call : Call) (calls : List Call) :
    r.answers (call :: calls) =
      (((r.answer call).1, (r.answer call).2.pending) :: ((r.answer call).2.answers calls).1,
        ((r.answer call).2.answers calls).2) :=
  rfl

/-- More calls go on from where the first ones led. -/
lemma answers_append (r : Reader) (calls more : List Call) :
    r.answers (calls ++ more) =
      ((r.answers calls).1 ++ ((r.answers calls).2.answers more).1,
        ((r.answers calls).2.answers more).2) := by
  induction calls generalizing r with
  | nil => rfl
  | cons call calls ih =>
    rw [List.cons_append, answers_cons, answers_cons, ih]
    rfl

@[simp] lemma environment_answers (r : Reader) (calls : List Call) :
    (r.answers calls).2.environment = r.environment := by
  induction calls generalizing r with
  | nil => rfl
  | cons call calls ih =>
    rw [answers_cons]
    exact (ih _).trans (environment_answer r call)

/-- What a run of calls hands over and leaves pending is what it had to refuse, and nothing else. -/
lemma take_answers (r : Reader) (calls : List Call) :
    ((r.answers calls).1.flatMap fun told => told.1.refusals) ++ (r.answers calls).2.pending =
      r.pending ++ calls.flatMap (refusals r.environment) := by
  induction calls generalizing r with
  | nil => exact (List.append_nil _).symm
  | cons call calls ih =>
    have turn := take_answer r call
    have later := ih (r.answer call).2
    rw [environment_answer] at later
    rw [answers_cons, List.flatMap_cons, List.flatMap_cons, List.append_assoc, later,
      ← List.append_assoc, turn, List.append_assoc]

lemma length_answers (r : Reader) (calls : List Call) :
    (r.answers calls).1.length = calls.length := by
  induction calls generalizing r with
  | nil => rfl
  | cons call calls ih => exact congrArg (· + 1) (ih _)

/-- A call behind others gets its reply, and with it comes what is pending then. -/
lemma getElem?_answers (r : Reader) (before after : List Call) (call : Call) :
    (r.answers (before ++ call :: after)).1[before.length]? =
      some (((r.answers before).2.answer call).1, (r.answers (before ++ [call])).2.pending) := by
  have number := length_answers r before
  rw [answers_append, answers_append, List.getElem?_append_right (Nat.le_of_eq number), number,
    Nat.sub_self]
  rfl

/-- For a log two texts are refused at most, that of the level before that of the form. -/
lemma warnings_ofEnvironment (env : Environment) (defaultLevel : String) :
    (Log.Settings.ofEnvironment env defaultLevel).warnings =
      (((offending? env "LOG_LEVEL" levels).map
          (Refusal.level (variableName "LOG_LEVEL"))).toList ++
        ((offending? env "LOG_FORMAT" ["pretty", "json"]).map
          (Refusal.choice (variableName "LOG_FORMAT") ["pretty", "json"])).toList).map
        Refusal.message := by
  -- the settings ask for the level and then for the form, and take what was refused
  have account := take_answers (ofEnvironment env)
    [.level "LOG_LEVEL" defaultLevel, .choice "LOG_FORMAT" ["pretty", "json"] "pretty"]
  simp only [List.flatMap_cons, List.flatMap_nil, List.append_nil, refusals] at account
  rw [show (ofEnvironment env).environment = env from rfl] at account
  rw [← List.nil_append (_ ++ _), show ([] : List Refusal) = (ofEnvironment env).pending from rfl,
    ← account]
  rfl

/--
Every call of a reader gets the reply that the environment has for it, the same as by itself. The
refusals that were taken and those that are still pending are in order what the calls had to refuse,
each of them once, and some are pending exactly if not all of them were taken. So the settings of a
log warn of exactly the variables that are at fault, of the level first and then of the form.
-/
theorem answers_faithful (env : Environment) (calls : List Call) :
    let told := (ofEnvironment env).answers calls
    let taken := told.1.flatMap fun t => t.1.refusals
    (∀ before call after, calls = before ++ call :: after → ∃ reply,
      told.1[before.length]? =
        some (reply, ((ofEnvironment env).answers (before ++ [call])).2.pending) ∧
      Fits env call reply ∧ (call ≠ .take → reply = ((ofEnvironment env).answer call).1)) ∧
    told.1.length = calls.length ∧
    taken ++ told.2.pending = calls.flatMap (refusals env) ∧
    (told.2.hasPending = true ↔ taken ≠ calls.flatMap (refusals env)) ∧
    ∀ defaultLevel, (Log.Settings.ofEnvironment env defaultLevel).warnings =
      (((offending? env "LOG_LEVEL" levels).map
          (Refusal.level (variableName "LOG_LEVEL"))).toList ++
        ((offending? env "LOG_FORMAT" ["pretty", "json"]).map
          (Refusal.choice (variableName "LOG_FORMAT") ["pretty", "json"])).toList).map
        Refusal.message := by
  intro told taken
  have account : taken ++ told.2.pending = calls.flatMap (refusals env) :=
    take_answers (ofEnvironment env) calls
  refine ⟨?_, length_answers _ calls, account, ?_, warnings_ofEnvironment env⟩
  · rintro before call after rfl
    have same : ((ofEnvironment env).answers before).2.environment = env :=
      environment_answers (ofEnvironment env) before
    refine ⟨_, getElem?_answers _ before after call, ?_, fun get => ?_⟩
    · have fits := fits_answer ((ofEnvironment env).answers before).2 call
      rwa [same] at fits
    · have alone := answer_alone ((ofEnvironment env).answers before).2 get
      rwa [same] at alone
  · rw [← account, ne_eq, List.self_eq_append_right, hasPending]
    cases told.2.pending <;> simp

/-- Two variables at fault, one in a form of its own, and one whose bytes are no text. -/
theorem answers_faithful_mixed :
    let env : Environment := { bindings := [("FAULTLINE_LOG_LEVEL", Text.utf8 "Loud".toList),
      ("FAULTLINE_LOG_FORMAT", [0xff]), ("FAULTLINE_MODE", Text.utf8 "ΑΣ".toList)] }
    let calls : List Call := [.level "LOG_LEVEL" "info", .choice "MODE" ["ας"] "plain", .take,
      .choice "LOG_FORMAT" ["json"] "json", .level "MODE" "warn"]
    let told := (ofEnvironment env).answers calls
    (∃ reply, told.1[1]? = some (reply, [.level "FAULTLINE_LOG_LEVEL" "Loud"]) ∧
      Fits env (.choice "MODE" ["ας"] "plain") reply ∧
      reply = .required (.ofEnvironment "ας" "FAULTLINE_MODE")) ∧
    told.2.pending = [.level "FAULTLINE_MODE" "ΑΣ"] := by
  intro env calls told
  obtain ⟨replies, -⟩ := answers_faithful env calls
  obtain ⟨reply, at_one, fits, alone⟩ := replies [.level "LOG_LEVEL" "info"]
    (.choice "MODE" ["ας"] "plain") [.take, .choice "LOG_FORMAT" ["json"] "json",
      .level "MODE" "warn"] rfl
  have pending : ((ofEnvironment env).answers
      [.level "LOG_LEVEL" "info", .choice "MODE" ["ας"] "plain"]).2.pending =
        [.level "FAULTLINE_LOG_LEVEL" "Loud"] := by
    decide +kernel
  have set : env.text? (variableName "MODE") = some "ΑΣ" := by decide +kernel
  have lower : Text.lowercase "ΑΣ" = "ας" := by decide +kernel
  refine ⟨⟨reply, pending ▸ at_one, fits, ?_⟩, ?_⟩
  · have listed : ["ας"].contains "ας" = true := by decide
    have alone := alone (fun get => by cases get)
    simp only [answer, choice, among, ofEnvironment, set, lower, listed, if_true] at alone
    exact alone
  · decide +kernel

end SoakRig.Environment.Reader
