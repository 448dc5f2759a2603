import Mathlib.Data.List.Infix
import SoakRig.Soak.Run

/-!
# The course of a soak

What one iteration does to the progress of a soak, and what the iterations do one after another.
Every iteration calls the client once, and what became of the calls so far decides the tally and the
text. Iterations that have been run may be split anywhere: the first ones are the iterations of a
shorter soak, and the others go on from there after the pause.
-/

namespace SoakRig

/-- A text that was taken stands behind the bytes that were taken before. -/
lemma Sink.bytes_of_write {s s' : Sink} {text : String} (written : s.write text = (.ok (), s')) :
    s'.bytes = s.bytes ++ Text.utf8 text.toList := by
  rw [write, offer] at written
  split at written
  · cases written
    simp [bytes]
  · split at written
    · cases written
      simp [bytes]
    · cases written

/-- A sink without a bound takes every text. -/
lemma Sink.write_of_room_none {s : Sink} (room : s.room = none) (text : String) :
    s.write text = (.ok (), { s with taken := (Text.utf8 text.toList).reverse ++ s.taken }) := by
  rw [write, offer, room]

namespace Soak

variable {σ : Type} {runner : Runner σ} {config : Config} {index : UInt32} {p q : Progress σ}

/-- What became of the calls of the runner, in order. -/
def Progress.attempts (p : Progress σ) : List Attempt := p.calls.reverse.map Call.attempt

/-- What becomes of the call in an iteration. -/
def answer (runner : Runner σ) (config : Config) (index : UInt32) (p : Progress σ) : Attempt :=
  (call runner config index p).1

/-- The progress when the text on an iteration is about to be written. -/
def noted (runner : Runner σ) (config : Config) (index : UInt32) (p : Progress σ) : Progress σ :=
  let r := call runner config index p
  { r.2 with world := note config index r.1 r.2.world }

/-- Text in pieces is taken if it is taken as a whole. -/
lemma Progress.write_ok {texts : List String} {out : Sink}
    (written : p.out.write (String.join texts) = (.ok (), out)) :
    p.write texts = (.ok (), { p with out }) := by
  rw [write, Sink.writeAll_eq_write_join, written]

/-- Text in pieces is refused if it is refused as a whole, and taken as far. -/
lemma Progress.write_error {texts : List String} {out : Sink} {e : SystemError}
    (refused : p.out.write (String.join texts) = (.error e, out)) :
    p.write texts = (.error (.io e), { p with out }) := by
  rw [write, Sink.writeAll_eq_write_join, refused]

/-- An iteration whose text is taken is counted. -/
lemma iterate_of_written {out : Sink}
    (written : p.out.write (block config.verbose config.timeout index
      (answer runner config index p)) = (.ok (), out)) :
    iterate runner config index p = (.ok (answer runner config index p),
      { noted runner config index p with
        out
        tally := p.tally.record (Iteration.ofAttempt index (answer runner config index p)) }) := by
  rw [← join_pieces] at written
  have told : (noted runner config index p).write _ = _ := Progress.write_ok written
  rw [noted, answer] at told
  rw [iterate, noted, answer]
  dsimp only at told ⊢
  rw [told]
  rfl

/-- An iteration whose text is refused is not counted, but its call was made. -/
lemma iterate_of_refused {out : Sink} {e : SystemError}
    (refused : p.out.write (block config.verbose config.timeout index
      (answer runner config index p)) = (.error e, out)) :
    iterate runner config index p =
      (.error (.io e), { noted runner config index p with out }) := by
  rw [← join_pieces] at refused
  have told : (noted runner config index p).write _ = _ := Progress.write_error refused
  rw [noted, answer] at told
  rw [iterate, noted]
  dsimp only at told ⊢
  rw [told]

/-- The call of an iteration is recorded with what became of it. -/
lemma noted_calls : ∃ c : Call, c.attempt = answer runner config index p ∧
    (noted runner config index p).calls = c :: p.calls :=
  ⟨_, rfl, rfl⟩

/-- All that an iteration did whose text was taken. -/
lemma iterate_ok {a : Attempt} (turn : iterate runner config index p = (.ok a, q)) :
    a = answer runner config index p ∧
      p.out.write (block config.verbose config.timeout index a) = (.ok (), q.out) ∧
      q = { noted runner config index p with
        out := q.out
        tally := p.tally.record (Iteration.ofAttempt index a) } := by
  generalize e : p.out.write (block config.verbose config.timeout index
    (answer runner config index p)) = r
  obtain ⟨_ | ⟨⟩, out⟩ := r
  · rw [iterate_of_refused e] at turn
    cases turn
  · rw [iterate_of_written e] at turn
    cases turn
    exact ⟨rfl, e, rfl⟩

/-- An iteration adds its call to the calls. -/
lemma calls_of_iterate {a : Attempt} (turn : iterate runner config index p = (.ok a, q)) :
    ∃ c : Call, c.attempt = a ∧ q.calls = c :: p.calls := by
  obtain ⟨rfl, -, e⟩ := iterate_ok turn
  rw [e]
  exact noted_calls

/-- An iteration adds what became of it to the attempts. -/
lemma attempts_of_iterate {a : Attempt} (turn : iterate runner config index p = (.ok a, q)) :
    q.attempts = p.attempts ++ [a] := by
  obtain ⟨c, rfl, calls⟩ := calls_of_iterate turn
  simp [Progress.attempts, calls]

/-- An iteration is told to a writer without a bound in any case. -/
lemma iterate_of_room_none (runner : Runner σ) (config : Config) (index : UInt32)
    (room : p.out.room = none) :
    ∃ a q, iterate runner config index p = (.ok a, q) ∧ q.out.room = none := by
  have written := Sink.write_of_room_none room
    (block config.verbose config.timeout index (answer runner config index p))
  exact ⟨_, _, iterate_of_written written, room⟩

/-- The progress after the pause that follows the last call, if so many iterations are left. -/
def rested (config : Config) (left : Nat) (p : Progress σ) : Progress σ :=
  match p.calls with
  | [] => p
  | c :: _ => { p with world := pause config left c.attempt p.world }

@[simp] lemma rested_out {left : Nat} : (rested config left p).out = p.out := by
  unfold rested; split <;> rfl

@[simp] lemma rested_calls {left : Nat} : (rested config left p).calls = p.calls := by
  unfold rested; split <;> rfl

@[simp] lemma rested_tally {left : Nat} : (rested config left p).tally = p.tally := by
  unfold rested; split <;> rfl

/-- There is no pause after the last iteration. -/
@[simp] lemma rested_zero : rested config 0 p = p := by
  unfold rested
  split
  · rfl
  · simp [pause]

/-- There is no pause before the first iteration. -/
lemma rested_of_no_calls {left : Nat} (none_yet : p.calls = []) : rested config left p = p := by
  rw [rested, none_yet]

/-- A pause follows what became of the last call. -/
lemma rested_of_calls {left : Nat} {c : Call} {cs : List Call} (calls : p.calls = c :: cs) :
    rested config left p = { p with world := pause config left c.attempt p.world } := by
  unfold rested
  split
  · next none_yet => simp [none_yet] at calls
  · next last _ more =>
    rw [calls] at more
    cases more
    rfl

/-- A pause does not depend on how many iterations are left, as long as there are some. -/
lemma rested_congr {left more : Nat} (hl : left ≠ 0) (hm : more ≠ 0) :
    rested config left p = rested config more p := by
  unfold rested
  split
  · rfl
  · simp [pause, hl, hm]

/-- After an iteration that was told come the pause and the other iterations. -/
lemma iterations_of_ok {left i : Nat} {a : Attempt}
    (turn : iterate runner config (UInt32.ofNat i) p = (.ok a, q)) :
    iterations runner config (left + 1) i p =
      iterations runner config left (i + 1) (rested config left q) := by
  obtain ⟨c, ca, calls⟩ := calls_of_iterate turn
  rw [iterations, turn, rested_of_calls calls, ca]

/-- An iteration that cannot be told is the last one. -/
lemma iterations_of_error {left i : Nat} {e : Error}
    (turn : iterate runner config (UInt32.ofNat i) p = (.error e, q)) :
    iterations runner config (left + 1) i p = (.error e, q) := by
  rw [iterations, turn]

/-- Iterations that are told begin with one that is told. -/
lemma iterations_succ {left i : Nat}
    (told : iterations runner config (left + 1) i p = (.ok (), q)) :
    ∃ a r, iterate runner config (UInt32.ofNat i) p = (.ok a, r) ∧
      iterations runner config left (i + 1) (rested config left r) = (.ok (), q) := by
  generalize e : iterate runner config (UInt32.ofNat i) p = turn
  obtain ⟨_ | a, r⟩ := turn
  · rw [iterations_of_error e] at told
    cases told
  · rw [iterations_of_ok e] at told
    exact ⟨a, r, rfl, told⟩

/-- What every told iteration and every pause keep, all iterations keep. -/
lemma iterations_induct {P : Nat → Progress σ → Prop}
    (turn : ∀ {i p a q}, P i p →
      iterate runner config (UInt32.ofNat i) p = (.ok a, q) → P (i + 1) q)
    (rest : ∀ {i left p}, P i p → P i (rested config left p))
    {left i : Nat} (start : P i p) (run : iterations runner config left i p = (.ok (), q)) :
    P (i + left) q := by
  induction left generalizing i p with
  | zero =>
    cases run
    exact start
  | succ left ih =>
    obtain ⟨a, r, e, run⟩ := iterations_succ run
    have kept := ih (rest (turn start e)) run
    rwa [Nat.add_assoc, Nat.add_comm 1] at kept

/-- The first iterations are those of a shorter soak, and the others go on from there. -/
lemma iterations_add {k m i : Nat} (first : iterations runner config k i p = (.ok (), q))
    (hk : k ≠ 0 ∨ p.calls = []) :
    iterations runner config (k + m) i p =
      iterations runner config m (i + k) (rested config m q) := by
  induction k generalizing i p with
  | zero =>
    cases first
    rw [Nat.zero_add, Nat.add_zero, rested_of_no_calls (hk.resolve_left (absurd rfl))]
  | succ k ih =>
    obtain ⟨a, r, e, first⟩ := iterations_succ first
    rw [Nat.succ_add, iterations_of_ok e]
    by_cases k0 : k = 0
    · subst k0
      rw [rested_zero] at first
      cases first
      rw [Nat.zero_add, Nat.zero_add]
    · -- both soaks make the pause, for both go on after this iteration
      rw [rested_congr (show k + m ≠ 0 by omega) k0, ih first (.inl k0), Nat.add_assoc,
        Nat.add_comm 1]

/-- All iterations are told to a writer without a bound. -/
lemma iterations_of_room_none (runner : Runner σ) (config : Config) (left i : Nat)
    (room : p.out.room = none) :
    ∃ q, iterations runner config left i p = (.ok (), q) ∧ q.out.room = none := by
  induction left generalizing i p with
  | zero => exact ⟨p, rfl, room⟩
  | succ left ih =>
    obtain ⟨a, q, turn, roomq⟩ := iterate_of_room_none runner config (UInt32.ofNat i) room
    rw [iterations_of_ok turn]
    exact ih (i + 1) (by simpa using roomq)

/-- Iterations add their calls to those that were made before. -/
lemma calls_of_iterations {left i : Nat} (told : iterations runner config left i p = (.ok (), q)) :
    ∃ new, new.length = left ∧ q.calls = new ++ p.calls := by
  have kept := iterations_induct
    (P := fun j r => ∃ new, i + new.length = j ∧ r.calls = new ++ p.calls)
    (fun {j r a s} h turn => ?turn) (fun h => ?rest) (i := i) ⟨[], rfl, rfl⟩ told
  case turn =>
    obtain ⟨new, number, calls⟩ := h
    obtain ⟨c, -, added⟩ := calls_of_iterate turn
    exact ⟨c :: new, by simp only [List.length_cons]; omega, by rw [added, calls]; rfl⟩
  case rest => simpa using h
  obtain ⟨new, number, calls⟩ := kept
  exact ⟨new, by omega, calls⟩

/-- The text on some attempts, which are numbered from one. -/
def story (config : Config) (attempts : List Attempt) : List UInt8 :=
  (attempts.zipIdx 1).flatMap fun (a, i) =>
    Text.utf8 (block config.verbose config.timeout (UInt32.ofNat i) a).toList

/-- The text on more attempts goes on from the text on the first ones. -/
lemma prefix_story (attempts more : List Attempt) :
    story config attempts <+: story config (attempts ++ more) := by
  rw [story, story, List.zipIdx_append, List.flatMap_append]
  exact List.prefix_append _ _

/-- One more attempt adds its text. -/
lemma story_snoc (attempts : List Attempt) (a : Attempt) :
    story config (attempts ++ [a]) = story config attempts ++
      Text.utf8
        (block config.verbose config.timeout (UInt32.ofNat (attempts.length + 1)) a).toList := by
  rw [story, List.zipIdx_append, List.flatMap_append, ← story, List.zipIdx_singleton,
    List.flatMap_singleton, Nat.add_comm 1]

/-- The told iterations have written exactly the text on their attempts behind what was there. -/
lemma bytes_grow_of_iterations {left : Nat} (none_yet : p.calls = [])
    (told : iterations runner config left 1 p = (.ok (), q)) :
    q.out.bytes = p.out.bytes ++ story config q.attempts := by
  have kept := iterations_induct
    (P := fun i r =>
      i = r.attempts.length + 1 ∧ r.out.bytes = p.out.bytes ++ story config r.attempts)
    (fun {i r a s} h turn => ?turn) (fun h => ?rest) (i := 1) ?start told
  case turn =>
    obtain ⟨number, bytes⟩ := h
    obtain ⟨-, written, -⟩ := iterate_ok turn
    rw [attempts_of_iterate turn, story_snoc, ← List.append_assoc, ← bytes, ← number]
    exact ⟨by simp [number], Sink.bytes_of_write written⟩
  case rest => simpa [Progress.attempts] using h
  case start =>
    rw [Progress.attempts, none_yet]
    exact ⟨rfl, (List.append_nil _).symm⟩
  exact kept.2

/-- The told iterations have written exactly the text on their attempts. -/
lemma bytes_of_iterations {left : Nat} (none_yet : p.calls = []) (nothing : p.out.bytes = [])
    (told : iterations runner config left 1 p = (.ok (), q)) :
    q.out.bytes = story config q.attempts := by
  rw [bytes_grow_of_iterations none_yet told, nothing, List.nil_append]

/-- The log directory, if there is to be one, can be made. -/
def Config.Usable (config : Config) (files : FileTree) : Prop :=
  ∀ dir, config.logDir = some dir → (files.makeDirectories dir).1 = .ok ()

/-- The progress when the first iteration is about to start. -/
def begun (runner : Runner σ) (config : Config) (p : Progress σ) : Progress σ :=
  { p with
    world := (prepare config p.world).2.report (startRecord runner.program config) }

/-- The report that a soak ends with. -/
def Progress.summary (config : Config) (p : Progress σ) : Summary :=
  Summary.ofTally config.command config.iterations p.tally

/-- A directory that can be made does not end the soak. -/
lemma prepare_of_usable {w : World} (usable : config.Usable w.files) :
    (prepare config w).1 = .ok () := by
  unfold prepare
  split
  · rfl
  · next dir found =>
    have made := usable dir found
    generalize w.files.makeDirectories dir = r at made
    obtain ⟨_, files⟩ := r
    cases made
    rfl

/-- A soak sums up when all its iterations were told. -/
lemma run_of_told (command : config.command ≠ []) (usable : config.Usable p.world.files)
    (told : iterations runner config config.iterations.toNat 1 (begun runner config p) =
      (.ok (), q)) :
    run runner config p = finish config q := by
  have ready := prepare_of_usable usable
  rw [begun] at told
  rw [run, if_neg command]
  generalize prepare config p.world = r at ready told ⊢
  obtain ⟨_, w⟩ := r
  cases ready
  simp only [told]

/-- A soak ends with an iteration that cannot be told. -/
lemma run_of_untold {e : Error} (command : config.command ≠ [])
    (usable : config.Usable p.world.files)
    (untold : iterations runner config config.iterations.toNat 1 (begun runner config p) =
      (.error e, q)) :
    run runner config p = (.error e, q) := by
  have ready := prepare_of_usable usable
  rw [begun] at untold
  rw [run, if_neg command]
  generalize prepare config p.world = r at ready untold ⊢
  obtain ⟨_, w⟩ := r
  cases ready
  simp only [untold]

/-- Without a command nothing happens. -/
lemma run_of_no_command (command : config.command = []) :
    run runner config p = (.error .emptyCommand, p) := by
  rw [run, if_pos command]

/-- A directory that cannot be made ends the soak before the first call. -/
lemma run_of_refused {dir : Path} {e : SystemError} (command : config.command ≠ [])
    (found : config.logDir = some dir)
    (refused : (p.world.files.makeDirectories dir).1 = .error e) :
    ∃ files,
      run runner config p = (.error (.io e), { p with world := { p.world with files } }) := by
  rw [run, if_neg command]
  simp only [prepare, found]
  generalize p.world.files.makeDirectories dir = r at refused
  obtain ⟨_, files⟩ := r
  cases refused
  exact ⟨files, rfl⟩

/-- A soak that returns a summary has a command and told all its iterations. -/
lemma run_ok {s : Summary} (ran : run runner config p = (.ok s, q)) :
    config.command ≠ [] ∧ ∃ r,
      iterations runner config config.iterations.toNat 1 (begun runner config p) = (.ok (), r) ∧
        finish config r = (.ok s, q) := by
  by_cases command : config.command = []
  · rw [run_of_no_command command] at ran
    cases ran
  · refine ⟨command, ?_⟩
    rw [run, if_neg command] at ran
    rw [begun]
    generalize prepare config p.world = r at ran
    obtain ⟨_ | ⟨⟩, w⟩ := r
    · cases ran
    · simp only at ran ⊢
      generalize iterations runner config _ 1 _ = i at ran ⊢
      obtain ⟨_ | ⟨⟩, r⟩ := i
      · cases ran
      · exact ⟨r, rfl, ran⟩

/-- A report that is taken ends the soak with its summary. -/
lemma finish_of_written {out : Sink}
    (written : p.out.write (p.summary config).render = (.ok (), out)) :
    finish config p =
      (.ok (p.summary config), { p with out }.report (endRecord (p.summary config))) := by
  have told : p.write [(p.summary config).render] = _ :=
    Progress.write_ok (by simpa using written)
  rw [Progress.summary] at told ⊢
  rw [finish, told]

/-- A report that is refused ends the soak with the refusal. -/
lemma finish_of_refused {out : Sink} {e : SystemError}
    (refused : p.out.write (p.summary config).render = (.error e, out)) :
    finish config p = (.error (.io e), { p with out }) := by
  have told : p.write [(p.summary config).render] = _ :=
    Progress.write_error (by simpa using refused)
  rw [Progress.summary] at told
  rw [finish, told]

/-- All that the end of a soak did whose report was taken. -/
lemma finish_ok {s : Summary} (finished : finish config p = (.ok s, q)) :
    s = p.summary config ∧ p.out.write (p.summary config).render = (.ok (), q.out) ∧
      q = { p with out := q.out }.report (endRecord (p.summary config)) := by
  generalize e : p.out.write (p.summary config).render = r
  obtain ⟨_ | ⟨⟩, out⟩ := r
  · rw [finish_of_refused e] at finished
    cases finished
  · rw [finish_of_written e] at finished
    cases finished
    exact ⟨rfl, rfl, rfl⟩

/-- The report is always written to a writer without a bound. -/
lemma finish_of_room_none (config : Config) (room : p.out.room = none) :
    ∃ q, finish config p = (.ok (p.summary config), q) ∧ q.calls = p.calls ∧
      q.world.files = p.world.files ∧
      q.out.bytes = p.out.bytes ++ Text.utf8 (p.summary config).render.toList := by
  have written := Sink.write_of_room_none room (p.summary config).render
  exact ⟨_, finish_of_written written, rfl, rfl, Sink.bytes_of_write written⟩

/-- The end of a soak makes no call. -/
lemma attempts_of_finish {s : Summary} (finished : finish config p = (.ok s, q)) :
    q.attempts = p.attempts := by
  obtain ⟨-, -, e⟩ := finish_ok finished
  rw [e]
  rfl

/-- What becomes of the calls by a script, counted from zero. -/
def Script.nth (script : Script) (k : Nat) : Attempt := script.attempts[k]?.getD script.fallback

/-- The script with some attempts left out. -/
def Script.drop (script : Script) (k : Nat) : Script :=
  { script with attempts := script.attempts.drop k }

/-- A scripted call gets the next attempt of the script. -/
lemma answer_scripted {step : Int} {p : Progress Script} :
    answer (scripted step) config index p = p.state.nth 0 := by
  unfold answer call scripted Script.nth
  obtain ⟨⟨_ | ⟨a, as⟩, fallback⟩, world, out, tally, calls⟩ := p <;> rfl

/-- A scripted call uses up the next attempt of the script. -/
lemma state_noted_scripted {step : Int} {p : Progress Script} :
    (noted (scripted step) config index p).state = p.state.drop 1 := by
  unfold noted call scripted Script.drop
  obtain ⟨⟨_ | ⟨a, as⟩, fallback⟩, world, out, tally, calls⟩ := p <;> rfl

/-- The attempts of a scripted soak are those of its script. -/
lemma attempts_scripted {step : Int} {script : Script} {world : World} {out : Sink} {s : Summary}
    {q : Progress Script}
    (ran : run (scripted step) config (.start script world out) = (.ok s, q)) :
    q.attempts = (List.range config.iterations.toNat).map script.nth := by
  obtain ⟨-, r, told, finished⟩ := run_ok ran
  have kept := iterations_induct
    (P := fun i p => i = p.attempts.length + 1 ∧
      p.attempts = (List.range p.attempts.length).map script.nth ∧
      p.state = script.drop p.attempts.length)
    (fun {i p a q} h turn => ?turn) (fun {i left p} h => ?rest) (i := 1) ?start told
  case turn =>
    obtain ⟨number, attempts, state⟩ := h
    obtain ⟨answered, -, e⟩ := iterate_ok turn
    have next : a = script.nth p.attempts.length := by
      rw [answered, answer_scripted, state, Script.nth, Script.nth, Script.drop, List.getElem?_drop]
      rfl
    have left : q.state = script.drop (p.attempts.length + 1) := by
      rw [e]
      show (noted (scripted step) config (UInt32.ofNat i) p).state = _
      rw [state_noted_scripted, state, Script.drop, Script.drop, Script.drop, List.drop_drop]
    rw [attempts_of_iterate turn, List.length_append, List.length_singleton, List.range_succ,
      List.map_append, ← attempts, next]
    exact ⟨congrArg (· + 1) number, rfl, left⟩
  case rest =>
    have state : (rested config left p).state = p.state := by
      unfold rested
      split <;> rfl
    simpa [Progress.attempts, state] using h
  case start => exact ⟨rfl, rfl, rfl⟩
  have length : r.attempts.length = config.iterations.toNat := by omega
  rw [attempts_of_finish finished, kept.2.1, length]

/-- A soak into a directory that is missing at first. -/
def mixedConfig : Config where
  target := .default
  command := ["add", "--client-id", "soak-1"]
  iterations := 6
  sleep := .ofMilliseconds 200
  timeout := .ofWholeSeconds 30
  logDir := some "logs/today"
  verbose := true

/-- Attempts of every kind, some of them of two kinds at once. -/
def mixedScript : Script where
  attempts := [
    .completed 0 "Retriable error on attempt 1/3" (.ofMilliseconds 100),
    .completed 1 "Rate limit exceeded\nRetriable error" (.ofMilliseconds 20),
    .timedOut,
    .failed (.spawn "client" .notFound),
    .completed 0 "Rate limit exceeded" (.ofMilliseconds 10)]
  fallback := .completed 3 "" .zero

/-- The soak of the mixed script. -/
def mixedSoak (out : Sink) : Except Error Summary × Progress Script :=
  run (scripted 0) mixedConfig (.start mixedScript (.still .fresh 0) out)

/-- The missing directory can be made. -/
lemma usable_mixed : mixedConfig.Usable FileTree.fresh := by
  intro dir found
  cases found
  decide +kernel

end Soak

end SoakRig
