import SoakRig.CommandLine.Client
import SoakRig.Proofs.CommandLine.Options
import SoakRig.Proofs.Lookup

/-!
# Which value an option of the soak client gets

The command line goes before the environment, and the environment before the default. A draft is read
back as the texts that filled it (`Draft.filled`), by the names of the options: an option that is given
changes the text of its own name and no other, so neither the order of the options nor a variable of
an option that is given makes a difference.
-/

namespace SoakRig.CommandLine.Client

/-- What is made of a value, if something is. -/
def made? {α : Type} (f : String → Except Reason α) (value : List UInt8) : Option α :=
  (ofText f value).toOption

/-- The draft with these values for its options and with a command. -/
def Draft.filled (values : String → Option (List UInt8)) (command : List String) : Draft where
  jar := (values "jar").bind (made? .ok)
  java := (values "java").bind (made? .ok)
  exec := (values "exec").bind (made? .ok)
  iterations := (values "iterations").bind (made? count)
  sleep := (values "sleep").bind (made? pause)
  timeout := (values "timeout").bind (made? limit)
  logDir := (values "log-dir").map Path.mk
  verbose := (values "verbose").isSome
  command

lemma option_cases {o : Spec Draft} (listed : o ∈ grammar.specs) :
    o = jar ∨ o = java ∨ o = exec ∨ o = iterations ∨ o = sleep ∨ o = timeout ∨ o = logDir ∨
      o = verbose := by
  simpa only [grammar, List.mem_cons, List.not_mem_nil, or_false] using listed

/-- The options can be told from each other by their names. -/
lemma regular_grammar : grammar.Regular where
  found := by
    intro o listed
    rcases option_cases listed with rfl | rfl | rfl | rfl | rfl | rfl | rfl | rfl <;> rfl
  named := by
    intro o listed
    rcases option_cases listed with rfl | rfl | rfl | rfl | rfl | rfl | rfl | rfl <;>
      exact ⟨by decide, by decide⟩

variable {values : String → Option (List UInt8)} {command : List String} {o : Spec Draft}
  {value : List UInt8}

lemma bounds_of_wholeNumber {low high n : Int} {text : String}
    (read : wholeNumber low high text = .ok n) : low ≤ n ∧ n ≤ high := by
  unfold wholeNumber at read
  split at read
  · cases read
  · split at read
    · next within =>
      cases read
      exact within
    · cases read

lemma map_eq_ok {ε α β : Type} {x : Except ε α} {f : α → β} {b : β} :
    x.map f = .ok b ↔ ∃ a, x = .ok a ∧ f a = b := by
  cases x <;> simp [Except.map]

/-- The number of iterations is the one that is read. -/
lemma wholeNumber_of_count {text : String} {n : UInt32} (counted : count text = .ok n) :
    wholeNumber 0 (twoTo 32 - 1) text = .ok (n.toNat : Int) := by
  obtain ⟨m, read, rfl⟩ := map_eq_ok.1 counted
  obtain ⟨low, high⟩ := bounds_of_wholeNumber read
  -- the bound on the number is that of the word
  have limit : ((twoTo 32 : Nat) : Int) = 4294967296 := rfl
  have small : m.toNat < 4294967296 := by omega
  have fits : (UInt32.ofNat m.toNat).toNat = m.toNat := UInt32.toNat_ofNat_of_lt small
  rw [fits, Int.toNat_of_nonneg low, read]

lemma seconds_eq_ok {r : Except Seconds.Error Duration} {t : Duration}
    (taken : seconds r = .ok t) : r = .ok t := by
  cases r with
  | error e => cases taken
  | ok t' =>
    cases taken
    rfl

/-- The value is the bytes of a text of which something is made. -/
def Makes {α : Type} (f : String → Except Reason α) (value : List UInt8) (a : α) : Prop :=
  ∃ text, value = bytes text ∧ f text = .ok a

/-- An option that puts in what it makes of its value has made something of a value that it took. -/
lemma exists_made {α : Type} {f : String → Except Reason α} {put : Draft → α → Draft}
    (puts : ∀ value d, o.set value d = (ofText f value).map (put d)) (accepts : o.Accepts value) :
    ∃ a, ofText f value = .ok a := by
  obtain ⟨d, d', taken⟩ := accepts
  rw [puts] at taken
  obtain ⟨a, made, -⟩ := map_eq_ok.1 taken
  exact ⟨a, made⟩

/-- Of every value that is given something is made, if the option takes it. -/
lemma reads_given {α : Type} {f : String → Except Reason α} {put : Draft → α → Draft}
    {given : Option (List UInt8)} (puts : ∀ value d, o.set value d = (ofText f value).map (put d))
    (accepted : ∀ value, given = some value → o.Accepts value) (value : List UInt8)
    (at_value : given = some value) : ∃ a, ofText f value = .ok a :=
  exists_made puts (accepted value at_value)

lemma filled_of_logDir (accepts : logDir.Accepts value) : value ≠ [] := by
  obtain ⟨d, d', taken⟩ := accepts
  rintro rfl
  cases taken

/-- An option that takes a value sets the value of its own name, and no other. -/
lemma set_filled (listed : o ∈ grammar.specs) (accepts : o.Accepts value) :
    o.set value (.filled values command) =
      .ok (.filled (Function.update values o.long (some value)) command) := by
  rcases option_cases listed with rfl | rfl | rfl | rfl | rfl | rfl | rfl | rfl
  · obtain ⟨text, made⟩ := exists_made (fun _ _ => rfl) accepts
    simp [jar, Draft.filled, Function.update, made?, made, Except.map, Except.toOption]
  · obtain ⟨text, made⟩ := exists_made (fun _ _ => rfl) accepts
    simp [java, Draft.filled, Function.update, made?, made, Except.map, Except.toOption]
  · obtain ⟨text, made⟩ := exists_made (fun _ _ => rfl) accepts
    simp [exec, Draft.filled, Function.update, made?, made, Except.map, Except.toOption]
  · obtain ⟨n, made⟩ := exists_made (fun _ _ => rfl) accepts
    simp [iterations, Draft.filled, Function.update, made?, made, Except.map, Except.toOption]
  · obtain ⟨t, made⟩ := exists_made (fun _ _ => rfl) accepts
    simp [sleep, Draft.filled, Function.update, made?, made, Except.map, Except.toOption]
  · obtain ⟨t, made⟩ := exists_made (fun _ _ => rfl) accepts
    simp [timeout, Draft.filled, Function.update, made?, made, Except.map, Except.toOption]
  · simp [logDir, Draft.filled, Function.update, filled_of_logDir accepts]
  · simp [verbose, Draft.filled, Function.update]

section Made

variable {α : Type} {f : String → Except Reason α} {given : Option (List UInt8)}
  (reads : ∀ value, given = some value → ∃ a, ofText f value = .ok a)

include reads

lemma isSome_made : (given.bind (made? f)).isSome = given.isSome := by
  cases given with
  | none => rfl
  | some value =>
    obtain ⟨a, made⟩ := reads value rfl
    rw [Option.bind_some, made?, made]
    rfl

/-- What is made of the value, and without one the default. -/
lemma elim_made (default : α) : given.elim ((given.bind (made? f)).getD default = default)
    fun value => Makes f value ((given.bind (made? f)).getD default) := by
  cases given with
  | none => rfl
  | some value =>
    obtain ⟨a, made⟩ := reads value rfl
    rw [Option.elim_some, Option.bind_some, made?, made]
    exact ofText_eq_ok.1 made

end Made

variable (command) in
/-- An option has a value exactly if there is one for its name, of which it makes something. -/
lemma isSet_filled (listed : o ∈ grammar.specs)
    (accepted : ∀ value, values o.long = some value → o.Accepts value) :
    o.isSet (.filled values command) = (values o.long).isSome := by
  rcases option_cases listed with rfl | rfl | rfl | rfl | rfl | rfl | rfl | rfl
  · exact isSome_made (reads_given (fun _ _ => rfl) accepted)
  · exact isSome_made (reads_given (fun _ _ => rfl) accepted)
  · exact isSome_made (reads_given (fun _ _ => rfl) accepted)
  · exact isSome_made (reads_given (fun _ _ => rfl) accepted)
  · exact isSome_made (reads_given (fun _ _ => rfl) accepted)
  · exact isSome_made (reads_given (fun _ _ => rfl) accepted)
  · exact Option.isSome_map
  · rfl

/-- The value that some options give for a name. -/
def given? (cs : List (Choice grammar)) (name : String) : Option (List UInt8) :=
  (cs.find? (·.name = name)).map (·.value)

lemma given?_eq_none_iff {cs : List (Choice grammar)} {name : String} :
    given? cs name = none ↔ name ∉ cs.map Choice.name := by
  simp [given?]

/-- Options that are given once each fill the values of their names. -/
lemma fills_filled {cs : List (Choice grammar)} (once : (cs.map Choice.name).Nodup)
    (accepted : ∀ c ∈ cs, c.option.Accepts c.value) (unset : ∀ c ∈ cs, values c.name = none) :
    Grammar.Fills cs (.filled values command)
      (.filled (fun name => (given? cs name).or (values name)) command) := by
  induction cs generalizing values with
  | nil => exact .nil
  | cons c cs ih =>
    rw [List.map_cons, List.nodup_cons] at once
    obtain ⟨fresh, once⟩ := once
    have none_yet : values c.name = none := unset c List.mem_cons_self
    -- the other options have other names, so they still have no value after this one
    have others (c' : Choice grammar) (mem : c' ∈ cs) : c'.name ≠ c.name := by
      intro same
      exact fresh (same ▸ List.mem_map_of_mem mem)
    have rest : Grammar.Fills cs (.filled (Function.update values c.name (some c.value)) command) _ :=
      ih once (fun c' mem => accepted c' (List.mem_cons_of_mem c mem)) fun c' mem => by
        rw [Function.update_of_ne (others c' mem)]
        exact unset c' (List.mem_cons_of_mem c mem)
    have same : (fun name => (given? cs name).or (Function.update values c.name (some c.value) name)) =
        fun name => (given? (c :: cs) name).or (values name) := by
      funext name
      by_cases own : c.name = name
      · subst own
        rw [given?_eq_none_iff.2 fresh, Function.update_self, given?,
          List.find?_cons_of_pos (by simp)]
        rfl
      · rw [Function.update_of_ne (Ne.symm own), given?, given?,
          List.find?_cons_of_neg (by simpa using own)]
    rw [same] at rest
    refine .cons ?_ (set_filled c.listed (accepted c List.mem_cons_self)) rest
    rw [isSet_filled command c.listed fun value filled => ?_]
    · exact Option.isSome_eq_false_iff.2 (Option.isNone_iff_eq_none.2 none_yet)
    · exact absurd (none_yet.symm.trans filled) (Option.some_ne_none value).symm

/-- Looking an option up keeps its value, and without one it gets the one that it inherits. -/
lemma lookUp_filled {env : Environment} (listed : o ∈ grammar.specs)
    (accepted : ∀ value, values o.long = some value → o.Accepts value)
    (acceptable : values o.long = none → o.Acceptable env) :
    Grammar.lookUp env o (.filled values command) =
      .ok (.filled (Function.update values o.long ((values o.long).or (o.inherited? env))) command) := by
  have is_set := isSet_filled command listed accepted
  cases given : values o.long with
  | some value =>
    rw [given] at is_set
    rw [Grammar.lookUp_of_isSet is_set, Option.some_or, ← given, Function.update_eq_self]
  | none =>
    rw [given] at is_set
    cases inherits : o.inherited? env with
    | none =>
      rw [Grammar.lookUp_of_none is_set inherits, Option.or_none, ← given,
        Function.update_eq_self]
    | some value =>
      have accepts := acceptable given value inherits
      exact Grammar.lookUp_of_inherited is_set inherits (set_filled listed accepts)

/-- Looking options up gives those without a value what they inherit. -/
lemma lookUpAll_filled {env : Environment} {os : List (Spec Draft)}
    (listed : ∀ o ∈ os, o ∈ grammar.specs) (once : (os.map (·.long)).Nodup)
    (accepted : ∀ o ∈ os, ∀ value, values o.long = some value → o.Accepts value)
    (acceptable : ∀ o ∈ os, values o.long = none → o.Acceptable env) :
    Grammar.lookUpAll env os (.filled values command) =
      .ok (.filled (fun name => (values name).or
        ((os.find? (·.long = name)).bind (·.inherited? env))) command) := by
  induction os generalizing values with
  | nil => simp [Grammar.lookUpAll]
  | cons o os ih =>
    rw [List.map_cons, List.nodup_cons] at once
    obtain ⟨fresh, once⟩ := once
    have others (o' : Spec Draft) (mem : o' ∈ os) : o'.long ≠ o.long := by
      intro same
      exact fresh (same ▸ List.mem_map_of_mem mem)
    rw [Grammar.lookUpAll, lookUp_filled (listed o List.mem_cons_self)
      (accepted o List.mem_cons_self) (acceptable o List.mem_cons_self)]
    simp only
    rw [ih (fun o' mem => listed o' (List.mem_cons_of_mem o mem)) once]
    · congr 2
      funext name
      by_cases own : o.long = name
      · subst own
        have nothing : os.find? (·.long = o.long) = none :=
          List.find?_eq_none.2 fun o' mem => by simpa using others o' mem
        rw [Function.update_self, nothing, List.find?_cons_of_pos (by simp), Option.bind_none,
          Option.or_none, Option.bind_some]
      · rw [Function.update_of_ne (Ne.symm own), List.find?_cons_of_neg (by simpa using own)]
    · intro o' mem value
      rw [Function.update_of_ne (others o' mem)]
      exact accepted o' (List.mem_cons_of_mem o mem) value
    · intro o' mem
      rw [Function.update_of_ne (others o' mem)]
      exact acceptable o' (List.mem_cons_of_mem o mem)

section Reading

variable {env : Environment} {cs order : List (Choice grammar)}

lemma given?_of_perm (once : (cs.map Choice.name).Nodup) (perm : order.Perm cs) :
    given? order = given? cs := by
  have too : (order.map Choice.name).Nodup := (perm.map Choice.name).nodup_iff.2 once
  funext name
  rw [given?, given?, find?_key_of_perm Choice.name too perm]

/-- The value that an option gets: its own, and else the one of its variable. -/
def asked (env : Environment) (cs : List (Choice grammar)) (o : Spec Draft) : Option (List UInt8) :=
  (given? cs o.long).or (o.inherited? env)

lemma accepts_asked (accepted : ∀ c ∈ cs, c.option.Accepts c.value)
    (acceptable : ∀ o ∈ grammar.specs, o.long ∉ cs.map Choice.name → o.Acceptable env)
    (listed : o ∈ grammar.specs) (asks : asked env cs o = some value) : o.Accepts value := by
  rcases Option.or_eq_some_iff.1 asks with given | ⟨ungiven, inherits⟩
  · obtain ⟨c, found, rfl⟩ := Option.map_eq_some_iff.1 given
    -- there is one option of the name
    have own : c.option = o := by
      have same : c.name = o.long := by simpa using List.find?_some found
      have first := regular_grammar.found c.option c.listed
      rw [show c.option.long = o.long from same, regular_grammar.found o listed] at first
      exact (Option.some.inj first).symm
    exact own ▸ accepted c (List.mem_of_find?_eq_some found)
  · exact acceptable o listed (given?_eq_none_iff.1 ungiven) value inherits

lemma takeCommand_filled (tokens : List String) :
    grammar.takeCommand (tokens.map bytes) ⟨.filled values [], none⟩ =
      .ok (.filled values tokens) := by
  cases tokens with
  | nil => rfl
  | cons token tokens =>
    have texts := Grammar.texts?_bytes (token :: tokens)
    rw [List.map_cons] at texts ⊢
    simp only [Grammar.takeCommand, grammar, Grammar.settle, texts]
    rfl

/-- What is read is the draft of the given and the inherited values, and the command as it stands. -/
lemma read_filled (tokens : List String) (once : (cs.map Choice.name).Nodup)
    (accepted : ∀ c ∈ cs, c.option.Accepts c.value)
    (acceptable : ∀ o ∈ grammar.specs, o.long ∉ cs.map Choice.name → o.Acceptable env) :
    read env (cs.map Choice.token ++ bytes "--" :: tokens.map bytes) =
      .ok (.filled (fun name => (given? cs name).or
        ((grammar.specs.find? (·.long = name)).bind (·.inherited? env))) tokens) := by
  have fills : Grammar.Fills cs (.filled (fun _ => none) [])
      (.filled (fun name => (given? cs name).or none) []) :=
    fills_filled once accepted fun _ _ => rfl
  simp only [Option.or_none] at fills
  have scanned : grammar.scan (cs.map Choice.token ++ bytes "--" :: tokens.map bytes) ⟨.empty, none⟩ =
      .ok (.filled (given? cs) tokens) := by
    rw [show Draft.empty = .filled (fun _ => none) [] from rfl,
      Grammar.scan_choices regular_grammar fills, Grammar.scan_separator, takeCommand_filled]
  have names : (grammar.specs.map (·.long)).Nodup := by decide
  rw [read, Grammar.read, scanned]
  apply lookUpAll_filled (fun o listed => listed) names
  · intro o listed value given
    have asks : asked env cs o = some value := by rw [asked, given, Option.some_or]
    exact accepts_asked accepted acceptable listed asks
  · intro o listed ungiven
    exact acceptable o listed (given?_eq_none_iff.1 ungiven)

/-- The text is that of a value, and without a value the default. -/
def Spells (value : Option (List UInt8)) (default text : String) : Prop :=
  value.elim (text = default) (· = bytes text)

/-- The configuration is what these values of the options and the command ask for. -/
structure Asks (c : Soak.Config) (value : Spec Draft → Option (List UInt8))
    (tokens : List String) : Prop where
  program : Spells ((value exec).or (value java)) "java" c.target.program
  leading : (value exec).elim
    (∃ path, c.target.leading = ["-jar", path] ∧
      Spells (value jar) "target/order-manager-1.0.0.jar" path)
    fun _ => c.target.leading = []
  iterations : (value iterations).elim (c.iterations = 50) fun v => ∃ text, v = bytes text ∧
    wholeNumber 0 (twoTo 32 - 1) text = .ok (c.iterations.toNat : Int)
  sleep : (value sleep).elim (c.sleep = .ofMilliseconds 200) fun v => ∃ text, v = bytes text ∧
    Seconds.pause text = .ok c.sleep
  timeout : (value timeout).elim (c.timeout = .ofWholeSeconds 30) fun v => ∃ text,
    v = bytes text ∧ Seconds.limit text = .ok c.timeout
  logDir : c.logDir = (value logDir).map Path.mk
  verbose : c.verbose = (value verbose).isSome
  command : tokens = "--" :: c.command ∨ tokens.head? ≠ some "--" ∧ c.command = tokens

/-- The text of a value, or without a value the default. -/
lemma spells_made {given : Option (List UInt8)}
    (reads : ∀ value, given = some value → ∃ a, ofText .ok value = .ok a) (default : String) :
    Spells given default ((given.bind (made? .ok)).getD default) := by
  have made := elim_made reads default
  cases given with
  | none => exact made
  | some value =>
    obtain ⟨text, at_value, same⟩ := made
    rw [Except.ok.injEq] at same
    exact same ▸ at_value

/-- A number or a length of time is read from the text of its value. -/
lemma read_of_elim {α : Type} {f : String → Except Reason α} {P : String → α → Prop}
    {given : Option (List UInt8)} {a default : α} (holds : ∀ {text a}, f text = .ok a → P text a)
    (made : given.elim (a = default) fun value => Makes f value a) :
    given.elim (a = default) fun value => ∃ text, value = bytes text ∧ P text a := by
  cases given with
  | none => exact made
  | some value =>
    obtain ⟨text, at_value, read⟩ := made
    exact ⟨text, at_value, holds read⟩

/-- One separator in front of a command is left out. -/
lemma stripSeparator_cases (tokens : List String) :
    tokens = "--" :: Soak.stripSeparator tokens ∨
      tokens.head? ≠ some "--" ∧ Soak.stripSeparator tokens = tokens := by
  cases tokens with
  | nil => exact .inr ⟨nofun, rfl⟩
  | cons token tokens =>
    by_cases separator : token = "--"
    · exact .inl (by rw [Soak.stripSeparator, if_pos separator, separator])
    · exact .inr ⟨by simpa using separator, by rw [Soak.stripSeparator, if_neg separator]⟩

/-- The target is the program that is given, and else a jar with its launcher. -/
lemma target_filled (tokens : List String) : (Draft.filled values tokens).config.target =
    ((values "exec").bind (made? .ok)).elim
      (.javaJar (((values "java").bind (made? .ok)).getD "java")
        (((values "jar").bind (made? .ok)).getD "target/order-manager-1.0.0.jar"))
      .direct := by
  simp only [Draft.config, Soak.Config.of, Draft.target, Draft.filled]
  cases (values "exec").bind (made? .ok) <;> rfl

/-- A filled draft asks for what its values ask for. -/
lemma asks_filled {tokens : List String}
    (accepts : ∀ o ∈ grammar.specs, ∀ value, values o.long = some value → o.Accepts value) :
    Asks (Draft.filled values tokens).config (fun o => values o.long) tokens where
  program := by
    rw [target_filled, show exec.long = "exec" from rfl, show java.long = "java" from rfl]
    cases given : values "exec" with
    | none => exact spells_made (reads_given (fun _ _ => rfl) (accepts java (by simp [grammar]))) _
    | some value =>
      obtain ⟨text, made⟩ :=
        exists_made (fun _ _ => rfl) (accepts exec (by simp [grammar]) value given)
      obtain ⟨text', at_value, same⟩ := ofText_eq_ok.1 made
      cases same
      rw [Option.bind_some, made?, made]
      exact at_value
  leading := by
    rw [target_filled, show exec.long = "exec" from rfl, show jar.long = "jar" from rfl]
    cases given : values "exec" with
    | none =>
      exact ⟨_, rfl, spells_made (reads_given (fun _ _ => rfl) (accepts jar (by simp [grammar]))) _⟩
    | some value =>
      obtain ⟨text, made⟩ :=
        exists_made (fun _ _ => rfl) (accepts exec (by simp [grammar]) value given)
      rw [Option.bind_some, made?, made]
      rfl
  iterations := read_of_elim wholeNumber_of_count
    (elim_made (reads_given (fun _ _ => rfl) (accepts iterations (by simp [grammar]))) 50)
  sleep := read_of_elim (f := pause) seconds_eq_ok
    (elim_made (reads_given (fun _ _ => rfl) (accepts sleep (by simp [grammar]))) _)
  timeout := read_of_elim (f := limit) seconds_eq_ok
    (elim_made (reads_given (fun _ _ => rfl) (accepts timeout (by simp [grammar]))) _)
  logDir := rfl
  verbose := rfl
  command := stripSeparator_cases tokens

/-- What a configuration asks for is a matter of the values of the options. -/
lemma Asks.congr {c : Soak.Config} {value value' : Spec Draft → Option (List UInt8)}
    {tokens : List String} (same : ∀ o ∈ grammar.specs, value o = value' o)
    (asks : Asks c value tokens) : Asks c value' tokens := by
  simp only [grammar, List.forall_mem_cons] at same
  obtain ⟨jar, java, exec, iterations, sleep, timeout, logDir, verbose, -⟩ := same
  obtain ⟨program, leading, counts, pauses, ends, directory, talks, command⟩ := asks
  rw [exec, java] at program
  rw [exec, jar] at leading
  rw [iterations] at counts
  rw [sleep] at pauses
  rw [timeout] at ends
  rw [logDir] at directory
  rw [verbose] at talks
  exact ⟨program, leading, counts, pauses, ends, directory, talks, command⟩

/--
Options in front of a separator, each given once with a value that it takes, are read in any order, if
every other option takes what its variable holds. What is asked for are the values of the options,
those of the variables for options that are not given, and else the defaults; and the tokens behind the
separator are the command, whatever they look like.
-/
theorem read_options (env : Environment) (cs : List (Choice grammar)) (tokens : List String)
    (once : (cs.map Choice.name).Nodup) (accepted : ∀ c ∈ cs, c.option.Accepts c.value)
    (acceptable : ∀ o ∈ grammar.specs, o.long ∉ cs.map Choice.name → o.Acceptable env) :
    ∃ d, (∀ order : List (Choice grammar), order.Perm cs →
        read env (order.map Choice.token ++ bytes "--" :: tokens.map bytes) = .ok d) ∧
      Asks d.config (asked env cs) tokens := by
  let values (name : String) : Option (List UInt8) :=
    (given? cs name).or ((grammar.specs.find? (·.long = name)).bind (·.inherited? env))
  have values_asked (o : Spec Draft) (listed : o ∈ grammar.specs) :
      values o.long = asked env cs o := by
    have found : grammar.specs.find? (·.long = o.long) = some o := regular_grammar.found o listed
    simp only [values, found, Option.bind_some, asked]
  refine ⟨.filled values tokens, fun order perm => ?_, Asks.congr values_asked (asks_filled ?_)⟩
  · have names : (order.map Choice.name).Perm (cs.map Choice.name) := perm.map Choice.name
    rw [read_filled tokens (names.nodup_iff.2 once) (fun c mem => accepted c (perm.mem_iff.1 mem))
      (fun o listed ungiven => acceptable o listed (mt names.mem_iff.2 ungiven)),
      given?_of_perm once perm]
  · intro o listed value asks
    rw [values_asked o listed] at asks
    exact accepts_asked accepted acceptable listed asks

/-- The environment of the example: a jar, a pause, a directory that is no text, and a number of
iterations that is none. -/
def mixedEnvironment : Environment := {
  bindings := [("FAULTLINE_ITERATIONS", bytes "many"), ("FAULTLINE_SLEEP", bytes "0.5"),
    ("FAULTLINE_JAR", bytes "a.jar"), ("FAULTLINE_LOG_DIR", [0x6C, 0xFF])] }

lemma pause_half : Seconds.pause "0.5" = .ok (.ofMilliseconds 500) := by decide +kernel

/-- The variables of the example hold what their options take, but for the number of iterations. -/
lemma acceptable_mixed (listed : o ∈ grammar.specs) (other : o.long ≠ "iterations") :
    o.Acceptable mixedEnvironment := by
  have archive : ofText .ok (bytes "a.jar") = .ok "a.jar" := ofText_eq_ok.2 ⟨"a.jar", rfl, rfl⟩
  have pauses : ofText pause (bytes "0.5") = .ok (.ofMilliseconds 500) :=
    ofText_eq_ok.2 ⟨"0.5", rfl, by rw [pause, pause_half]; rfl⟩
  intro value inherits
  rcases option_cases listed with rfl | rfl | rfl | rfl | rfl | rfl | rfl | rfl
  case inr.inr.inr.inl => exact absurd rfl other
  case inl =>
    cases inherits
    exact ⟨.empty, { Draft.empty with jar := some "a.jar" }, by simp only [jar, archive]; rfl⟩
  case inr.inr.inr.inr.inl =>
    cases inherits
    exact ⟨.empty, { Draft.empty with sleep := some (.ofMilliseconds 500) },
      by simp only [sleep, pauses]; rfl⟩
  case inr.inr.inr.inr.inr.inr.inl =>
    cases inherits
    exact ⟨.empty, _, rfl⟩
  all_goals cases inherits

/--
The number of iterations is given, so what its variable holds does not matter; the pause and the log
directory come from their variables, the latter byte for byte. The options may change places, and those
behind the separator belong to the command. Without a program of its own the soak runs the jar.
-/
theorem read_options_mixed :
    let behind := ["--", "--", "--verbose", "-n", "7"].map bytes
    (∃ d, read mixedEnvironment ([bytes "--exec=sh", bytes "--iterations=3"] ++ behind) = .ok d ∧
      read mixedEnvironment ([bytes "--iterations=3", bytes "--exec=sh"] ++ behind) = .ok d ∧
      d.config.iterations.toNat = 3 ∧ d.config.sleep = .ofMilliseconds 500 ∧
      d.config.timeout = .ofWholeSeconds 30 ∧ d.config.verbose = false ∧
      d.config.logDir = some ⟨[0x6C, 0xFF]⟩ ∧ d.config.target.program = "sh" ∧
      d.config.target.leading = [] ∧ d.config.command = ["--verbose", "-n", "7"]) ∧
    ∃ d, read mixedEnvironment (bytes "--iterations=3" :: behind) = .ok d ∧
      d.config.target.program = "java" ∧ d.config.target.leading = ["-jar", "a.jar"] := by
  intro behind
  let program : Choice grammar := ⟨exec, bytes "sh", by simp [grammar], by decide⟩
  let times : Choice grammar := ⟨iterations, bytes "3", by simp [grammar], by decide⟩
  have three : ofText count (bytes "3") = .ok 3 := ofText_eq_ok.2 ⟨"3", rfl, rfl⟩
  have shell : ofText .ok (bytes "sh") = .ok "sh" := ofText_eq_ok.2 ⟨"sh", rfl, rfl⟩
  have takes_program : exec.Accepts (bytes "sh") :=
    ⟨.empty, { Draft.empty with exec := some "sh" }, by simp only [exec, shell]; rfl⟩
  have takes_times : iterations.Accepts (bytes "3") :=
    ⟨.empty, { Draft.empty with iterations := some 3 }, by simp only [iterations, three]; rfl⟩
  have spelled : program.token = bytes "--exec=sh" := by decide
  have numbered : times.token = bytes "--iterations=3" := by decide
  constructor
  · obtain ⟨d, reads, asks⟩ := read_options mixedEnvironment [program, times]
      ["--", "--verbose", "-n", "7"] (by decide)
      (by simp only [List.forall_mem_cons]; exact ⟨takes_program, takes_times, nofun⟩)
      fun o listed ungiven => acceptable_mixed listed fun same => ungiven (same ▸ by decide)
    have own : asked mixedEnvironment [program, times] exec = some (bytes "sh") := rfl
    have number : asked mixedEnvironment [program, times] iterations = some (bytes "3") := rfl
    have nap : asked mixedEnvironment [program, times] sleep = some (bytes "0.5") := rfl
    obtain ⟨counted, at_three, three⟩ : ∃ text, bytes "3" = bytes text ∧
        wholeNumber 0 (twoTo 32 - 1) text = .ok (d.config.iterations.toNat : Int) := by
      have counts := asks.iterations
      rwa [number] at counts
    obtain ⟨paused, at_half, slept⟩ : ∃ text, bytes "0.5" = bytes text ∧
        Seconds.pause text = .ok d.config.sleep := by
      have pauses := asks.sleep
      rwa [nap] at pauses
    have shell : bytes "sh" = bytes d.config.target.program := by
      have program := asks.program
      rwa [own, Option.some_or] at program
    have alone : d.config.target.leading = [] := by
      have leading := asks.leading
      rwa [own] at leading
    have command : d.config.command = ["--verbose", "-n", "7"] := by
      obtain closed | ⟨different, -⟩ := asks.command
      · exact (List.cons.inj closed).2.symm
      · exact absurd rfl different
    obtain rfl := Grammar.bytes_injective at_three
    obtain rfl := Grammar.bytes_injective at_half
    have first := reads [program, times] (.refl _)
    have second := reads [times, program] (.swap _ _ _)
    rw [List.map_cons, List.map_cons, List.map_nil, spelled, numbered] at first second
    refine ⟨d, first, second, ?_, ?_, asks.timeout, asks.verbose,
      asks.logDir, (Grammar.bytes_injective shell).symm, alone, command⟩
    · have read : wholeNumber 0 (twoTo 32 - 1) "3" = .ok (3 : Int) := rfl
      exact Int.ofNat.inj (Except.ok.inj (three.symm.trans read))
    · exact Except.ok.inj (slept.symm.trans pause_half)
  · obtain ⟨d, reads, asks⟩ := read_options mixedEnvironment [times]
      ["--", "--verbose", "-n", "7"] (by decide)
      (by simp only [List.forall_mem_cons]; exact ⟨takes_times, nofun⟩)
      fun o listed ungiven => acceptable_mixed listed fun same => ungiven (same ▸ by decide)
    have foreign : asked mixedEnvironment [times] exec = none := rfl
    have launcher : asked mixedEnvironment [times] java = none := rfl
    have packed : asked mixedEnvironment [times] jar = some (bytes "a.jar") := rfl
    have usual : d.config.target.program = "java" := by
      have program := asks.program
      rwa [foreign, launcher, Option.or_none] at program
    obtain ⟨path, leading, archive⟩ : ∃ path, d.config.target.leading = ["-jar", path] ∧
        bytes "a.jar" = bytes path := by
      have leading := asks.leading
      rwa [foreign, packed] at leading
    obtain rfl := Grammar.bytes_injective archive
    have read := reads [times] (.refl _)
    rw [List.map_cons, List.map_nil, numbered] at read
    exact ⟨d, read, usual, leading⟩

end Reading

end SoakRig.CommandLine.Client
