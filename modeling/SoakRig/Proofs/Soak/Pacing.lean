import SoakRig.Proofs.Soak.Course

/-!
# The pacing of a soak

When a soak calls the client, and where it sleeps. `schedule` says which events some calls make up,
and `Passes` what the events do to the runner and to the world; the iterations pass through exactly
the schedule of their calls. With a runner that takes no time the events tell the time of every call.
-/

namespace SoakRig.Soak

/-- The run ran out of time. -/
def Attempt.late : Attempt → Bool
  | timedOut => true
  | completed .. | failed _ => false

/-- What a soak does in the course of time. -/
inductive Event where
  | call (c : Call)
  | sleep (d : Duration)

/-- A pause follows a call that did not run out of time, if there are to be pauses at all. -/
def pauseAfter (config : Config) (c : Call) : List Event :=
  if c.attempt.late = false ∧ config.sleep ≠ .zero then [.sleep config.sleep] else []

/-- The events that some calls make up: pauses are made between two calls only. -/
def schedule (config : Config) : List Call → List Event
  | [] => []
  | [c] => [.call c]
  | c :: d :: calls => .call c :: (pauseAfter config c ++ schedule config (d :: calls))

/-- What the runner finds when it is called. -/
structure Moment (σ : Type) where
  state : σ
  world : World

variable {σ : Type} {runner : Runner σ} {config : Config} {p q : Progress σ} {m last : Moment σ}

/-- The moment that a soak has come to. -/
def Progress.moment (p : Progress σ) : Moment σ := ⟨p.state, p.world⟩

/--
The events lead from one moment to another, where the next call has the given number. A call gets the
command rendered for its number and the time of day, and the timeout, and what became of it is noted.
-/
inductive Passes (runner : Runner σ) (config : Config) :
    Nat → Moment σ → List Event → Moment σ → Prop where
  | done {i m} : Passes runner config i m [] m
  | call {i m args attempt state world events last}
      (rendered : args = Template.render config.command (UInt32.ofNat i) m.world.now)
      (answered : runner.run args config.timeout m.state
        (m.world.report (pendingRecord (UInt32.ofNat i) args)) = (attempt, state, world))
      (later : Passes runner config (i + 1)
        ⟨state, note config (UInt32.ofNat i) attempt world⟩ events last) :
      Passes runner config i m
        (.call ⟨args, m.world.elapsed, config.timeout, attempt⟩ :: events) last
  | sleep {i m d events last}
      (later : Passes runner config i { m with world := m.world.sleep d } events last) :
      Passes runner config i m (.sleep d :: events) last

/-- A pause is due exactly after a run that did not run out of time. -/
lemma paced_eq (a : Attempt) : a.paced = !a.late := by
  cases a <;> rfl

/-- Before another iteration the soak sleeps as the schedule says. -/
lemma Passes.rest {i left : Nat} {c : Call} {cs : List Call} {events : List Event}
    (more : left ≠ 0) (calls : p.calls = c :: cs)
    (later : Passes runner config i (rested config left p).moment events last) :
    Passes runner config i p.moment (pauseAfter config c ++ events) last := by
  rw [rested_of_calls calls] at later
  unfold pauseAfter
  unfold pause at later
  rw [paced_eq] at later
  by_cases due : c.attempt.late = false ∧ config.sleep ≠ .zero
  · rw [if_pos due]
    rw [if_pos (by simpa [more] using due)] at later
    exact .sleep later
  · rw [if_neg due]
    rw [if_neg (by simpa [more] using due)] at later
    exact later

/-- An iteration passes through its call. -/
lemma Passes.turn {i : Nat} {a : Attempt} {r : Progress σ} {events : List Event}
    (turn : iterate runner config (UInt32.ofNat i) p = (.ok a, r))
    (later : Passes runner config (i + 1) r.moment events last) :
    ∃ c, r.calls = c :: p.calls ∧ Passes runner config i p.moment (.call c :: events) last := by
  obtain ⟨rfl, -, e⟩ := iterate_ok turn
  rw [e] at later ⊢
  exact ⟨_, rfl, .call rfl rfl later⟩

/-- The iterations pass through the schedule of their calls. -/
lemma passes_of_iterations {left i : Nat}
    (told : iterations runner config left i p = (.ok (), q)) :
    ∃ calls, calls.length = left ∧ q.calls = calls.reverse ++ p.calls ∧
      Passes runner config i p.moment (schedule config calls) q.moment := by
  induction left generalizing i p with
  | zero =>
    cases told
    exact ⟨[], rfl, rfl, .done⟩
  | succ left ih =>
    obtain ⟨a, r, turn, told⟩ := iterations_succ told
    obtain ⟨calls, length, all, later⟩ := ih told
    rw [rested_calls] at all
    cases calls with
    | nil =>
      -- the last iteration, after which there is no pause
      obtain rfl : left = 0 := length.symm
      rw [rested_zero] at later
      obtain ⟨c, last, passes⟩ := Passes.turn turn later
      exact ⟨[c], rfl, by simp [all, last], passes⟩
    | cons d calls =>
      have more : left ≠ 0 := by
        rintro rfl
        cases length
      obtain ⟨c, ca, before⟩ := calls_of_iterate turn
      obtain ⟨c', last, passes⟩ := Passes.turn turn (later.rest more before)
      obtain rfl : c' = c := by
        rw [before] at last
        cases last
        rfl
      exact ⟨c' :: d :: calls, by simp [← length], by simp [all, last], passes⟩

/-! ## The time of the calls -/

/-- The runs of the client take no time. -/
def Runner.Instant (runner : Runner σ) : Prop :=
  ∀ args timeout state world, (runner.run args timeout state world).2.2.elapsed = world.elapsed

/-- Taking note takes no time. -/
@[simp] lemma elapsed_note (index : UInt32) (a : Attempt) (w : World) :
    (note config index a w).elapsed = w.elapsed := by
  cases a with
  | completed exitCode output duration =>
    rw [note, keepOutput]
    split
    · rfl
    · split <;> rfl
  | timedOut => rfl
  | failed => rfl

/-- How long a soak sleeps at a time, in nanoseconds. -/
def Config.rest (config : Config) : Nat := (World.keptPause config.sleep).nanoseconds

/-- A whole number of milliseconds is slept in full, up to the longest pause. -/
lemma rest_of_milliseconds {ms : Nat} (whole : config.sleep = .ofMilliseconds ms) :
    config.rest = min config.sleep.nanoseconds World.longestPause.nanoseconds := by
  have covering : (Duration.ofMilliseconds ms).coveringMilliseconds = ms := by
    have positive := tenTo_pos 6
    rw [Duration.coveringMilliseconds, Duration.ofMilliseconds, Nat.add_comm,
      Nat.add_mul_div_right _ _ positive, Nat.div_eq_of_lt (by omega), Nat.zero_add]
  have longest : World.longestPause.nanoseconds =
      World.longestPause.milliseconds * tenTo 6 := by decide
  rw [Config.rest, World.keptPause, whole, covering, longest]
  exact (Nat.mul_min_mul_right ..).symm

/-- Between two calls the time moves by the pause that is due. -/
lemma elapsed_of_pause {i pause : Nat} {c : Call} {events : List Event}
    (rest : config.rest = pause)
    (passes : Passes runner config i m (pauseAfter config c ++ events) last) :
    ∃ m', Passes runner config i m' events last ∧
      m'.world.elapsed.nanoseconds = m.world.elapsed.nanoseconds +
        pause * (!c.attempt.late).toNat := by
  subst rest
  unfold pauseAfter at passes
  by_cases due : c.attempt.late = false ∧ config.sleep ≠ .zero
  · rw [if_pos due] at passes
    cases passes with
    | sleep later => exact ⟨_, later, by simp [due.1, World.sleep, World.pass, Config.rest]⟩
  · rw [if_neg due] at passes
    refine ⟨m, passes, ?_⟩
    -- either the call was late, or a pause takes no time
    by_cases late : c.attempt.late = true
    · simp [late]
    · have never : config.sleep = .zero := by
        by_contra some_pause
        exact due ⟨by simpa using late, some_pause⟩
      have nothing : config.rest = 0 := by
        rw [Config.rest, never]
        decide
      simp [nothing]

/-- How many of some calls did not run out of time. -/
def timely (calls : List Call) : Nat := calls.countP fun c => !c.attempt.late

@[simp] lemma timely_nil : timely [] = 0 := rfl

@[simp] lemma timely_cons (c : Call) (calls : List Call) :
    timely (c :: calls) = (!c.attempt.late).toNat + timely calls := by
  unfold timely
  rw [List.countP_cons]
  cases c.attempt.late <;> simp [Nat.add_comm]

/-- A call that takes no time is made at the time of its moment, and leaves it as it is. -/
lemma elapsed_of_call {i : Nat} {c : Call} {events : List Event} (instant : runner.Instant)
    (passes : Passes runner config i m (.call c :: events) last) :
    c.elapsed = m.world.elapsed ∧
      ∃ m', Passes runner config (i + 1) m' events last ∧ m'.world.elapsed = m.world.elapsed := by
  cases passes with
  | @call _ _ args attempt state world _ _ rendered answered later =>
    have same := instant args config.timeout m.state
      (m.world.report (pendingRecord (UInt32.ofNat i) args))
    rw [answered] at same
    exact ⟨rfl, _, later, (elapsed_note ..).trans same⟩

/-- When runs take no time, every timely call before the last one moves the time by one pause. -/
lemma elapsed_of_passes {i pause : Nat} {calls : List Call} (instant : runner.Instant)
    -- the pause is a variable: to compute `config.rest` with an unknown sleep takes very long
    (rest : config.rest = pause)
    (passes : Passes runner config i m (schedule config calls) last) :
    (∀ k c, calls[k]? = some c → c.elapsed.nanoseconds =
      m.world.elapsed.nanoseconds + pause * timely (calls.take k)) ∧
    last.world.elapsed.nanoseconds =
      m.world.elapsed.nanoseconds + pause * timely calls.dropLast := by
  induction calls generalizing i m with
  | nil =>
    cases passes
    exact ⟨nofun, by simp⟩
  | cons c calls ih =>
    cases calls with
    | nil =>
      obtain ⟨at_c, m', later, same⟩ := elapsed_of_call instant passes
      cases later
      refine ⟨fun k d at_k => ?_, by simp [same]⟩
      cases k with
      | zero =>
        cases at_k
        simp [at_c]
      | succ k => cases at_k
    | cons d calls =>
      obtain ⟨at_c, m', later, same⟩ := elapsed_of_call instant passes
      obtain ⟨m'', later, moved⟩ := elapsed_of_pause rest later
      obtain ⟨times, final⟩ := ih later
      rw [same] at moved
      refine ⟨fun k e at_k => ?_, ?_⟩
      · cases k with
        | zero =>
          cases at_k
          simp [at_c]
        | succ k =>
          rw [times k e at_k, moved, List.take_succ_cons, timely_cons, Nat.mul_add, Nat.add_assoc]
      · rw [final, moved, List.dropLast_cons_of_ne_nil (List.cons_ne_nil d calls), timely_cons,
          Nat.mul_add, Nat.add_assoc]

/-- With a writer that takes everything a soak passes through the schedule of all its calls. -/
lemma exists_passes (runner : Runner σ) (state : σ) (world : World) (out : Sink)
    (command : config.command ≠ []) (usable : config.Usable world.files)
    (room : out.room = none) :
    ∃ s q calls last, run runner config (.start state world out) = (.ok s, q) ∧
      q.calls.reverse = calls ∧ calls.length = config.iterations.toNat ∧
      Passes runner config 1 (begun runner config (.start state world out)).moment
        (schedule config calls) last ∧
      q.state = last.state ∧ q.world = last.world.report (endRecord s) := by
  obtain ⟨r, told, roomr⟩ := iterations_of_room_none (p := begun runner config
    (.start state world out)) runner config config.iterations.toNat 1 room
  obtain ⟨calls, length, all, passes⟩ := passes_of_iterations told
  have none_yet : (begun runner config (.start state world out)).calls = [] := rfl
  rw [none_yet, List.append_nil] at all
  have written := Sink.write_of_room_none roomr (r.summary config).render
  have ran := run_of_told command usable told
  rw [finish_of_written written] at ran
  exact ⟨_, _, calls, r.moment, ran, List.reverse_eq_iff.2 all, length, passes, rfl, rfl⟩

/-- Getting ready takes no time. -/
lemma elapsed_begun : (begun runner config p).moment.world.elapsed = p.world.elapsed := by
  unfold Progress.moment begun prepare
  split
  · rfl
  · generalize p.world.files.makeDirectories _ = r
    obtain ⟨_ | ⟨⟩, files⟩ := r <;> rfl

/--
With a command and a log directory, if there is to be one, a soak with a writer that takes
everything calls the client once for every iteration, whatever becomes of the calls, and passes
through exactly the schedule of these calls. When runs take no time and the pause is a whole number
of milliseconds, the time of every call, and of the end, is the pause times the number of the earlier
calls that did not run out of time; a longer pause than the longest one counts as that one.
-/
theorem run_paces (runner : Runner σ) (config : Config) (state : σ) (world : World) (out : Sink)
    (command : config.command ≠ []) (usable : config.Usable world.files)
    (room : out.room = none) :
    ∃ s q calls last, run runner config (.start state world out) = (.ok s, q) ∧
      q.calls.reverse = calls ∧ calls.length = config.iterations.toNat ∧
      Passes runner config 1 (begun runner config (.start state world out)).moment
        (schedule config calls) last ∧
      q.state = last.state ∧ q.world = last.world.report (endRecord s) ∧
      ∀ ms, runner.Instant → config.sleep = .ofMilliseconds ms →
        let pause := min config.sleep.nanoseconds World.longestPause.nanoseconds
        (∀ k c, calls[k]? = some c → c.elapsed.nanoseconds =
          world.elapsed.nanoseconds + pause * timely (calls.take k)) ∧
        q.world.elapsed.nanoseconds =
          world.elapsed.nanoseconds + pause * timely calls.dropLast := by
  obtain ⟨s, q, calls, last, ran, made, length, passes, same, closing⟩ :=
    exists_passes runner state world out command usable room
  refine ⟨s, q, calls, last, ran, made, length, passes, same, closing,
    fun ms instant whole => ?_⟩
  obtain ⟨times, final⟩ := elapsed_of_passes instant (rest_of_milliseconds whole) passes
  rw [elapsed_begun] at times final
  rw [closing]
  exact ⟨times, final⟩

/-- Scripted runs take no time. -/
lemma instant_scripted (step : Int) : (scripted step).Instant := by
  rintro args timeout ⟨_ | ⟨a, as⟩, fallback⟩ world <;> rfl

/-- Whether calls are timely is told by what became of them. -/
lemma timely_eq (calls : List Call) :
    timely calls = (calls.map Call.attempt).countP fun a => !a.late := by
  rw [timely, List.countP_map]
  rfl

/-- The mixed soak sleeps after four of its six calls: not after the timeout, nor at the end. -/
theorem run_paces_mixed :
    mixedConfig.command ≠ [] ∧ mixedConfig.Usable FileTree.fresh ∧ (scripted 0).Instant ∧
      mixedConfig.sleep = .ofMilliseconds 200 ∧ ∃ s q, mixedSoak .unbounded = (.ok s, q) ∧
        q.calls.length = 6 ∧
        (∀ c, q.calls.reverse[4]? = some c → c.elapsed.nanoseconds = 600 * tenTo 6) ∧
        q.world.elapsed.nanoseconds = 800 * tenTo 6 := by
  have command : mixedConfig.command ≠ [] := by decide
  obtain ⟨s, q, calls, last, ran, made, length, -, -, -, timed⟩ := run_paces (scripted 0)
    mixedConfig mixedScript (.still .fresh 0) .unbounded command usable_mixed rfl
  obtain ⟨times, final⟩ := timed 200 (instant_scripted 0) rfl
  have attempts : calls.map Call.attempt = (List.range 6).map mixedScript.nth := by
    rw [← made]
    exact attempts_scripted ran
  have four : timely (calls.take 4) = 3 := by
    rw [timely_eq, List.map_take, attempts]
    decide
  have all : timely calls.dropLast = 4 := by
    rw [timely_eq, List.map_dropLast, attempts]
    decide
  refine ⟨command, usable_mixed, instant_scripted 0, rfl, s, q, ran, ?_, fun c at_c => ?_, ?_⟩
  · rw [← List.length_reverse, made, length]
    rfl
  · rw [made] at at_c
    rw [times 4 c at_c, four]
    decide
  · rw [final, all]
    decide

/-- A soak with a pause of more than thirty years. -/
def patientConfig : Config where
  target := .default
  command := ["balances"]
  iterations := 2
  sleep := .ofWholeSeconds (tenTo 9)
  timeout := .ofWholeSeconds 30
  logDir := none
  verbose := false

/-- A pause of more than thirty years is not slept in full, so the next call comes earlier. -/
theorem run_paces_cut_short :
    patientConfig.command ≠ [] ∧ patientConfig.Usable FileTree.fresh ∧ (scripted 0).Instant ∧
      patientConfig.sleep = .ofMilliseconds (tenTo 12) ∧
      ∃ s q, run (scripted 0) patientConfig (.start ⟨[], .completed 0 "" .zero⟩
          (.still .fresh 0) .unbounded) = (.ok s, q) ∧
        ¬∀ k c, q.calls.reverse[k]? = some c → c.elapsed.nanoseconds =
          patientConfig.sleep.nanoseconds * timely (q.calls.reverse.take k) := by
  have command : patientConfig.command ≠ [] := by decide
  have usable : patientConfig.Usable FileTree.fresh := nofun
  obtain ⟨s, q, calls, last, ran, made, length, passes, -⟩ := exists_passes (scripted 0)
    ⟨[], .completed 0 "" .zero⟩ (.still .fresh 0) .unbounded command usable rfl
  refine ⟨command, usable, instant_scripted 0, rfl, s, q, ran, fun slept => ?_⟩
  have rest : patientConfig.rest = World.longestPause.nanoseconds := by decide
  obtain ⟨times, -⟩ := elapsed_of_passes (instant_scripted 0) rest passes
  have attempts : calls.map Call.attempt = (List.range 2).map fun _ => .completed 0 "" .zero := by
    rw [← made]
    exact attempts_scripted ran
  have one : timely (calls.take 1) = 1 := by
    rw [timely_eq, List.map_take, attempts]
    rfl
  -- the second call comes after the longest pause, and not after the whole one
  obtain ⟨c, at_c⟩ : ∃ c, calls[1]? = some c :=
    ⟨_, List.getElem?_eq_getElem (length ▸ by decide)⟩
  rw [made] at slept
  have later := slept 1 c at_c
  rw [times 1 c at_c, one, elapsed_begun] at later
  exact absurd later (by decide)

end SoakRig.Soak
