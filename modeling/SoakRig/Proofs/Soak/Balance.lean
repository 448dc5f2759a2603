import SoakRig.Proofs.Soak.Counts
import SoakRig.Proofs.Soak.Writer

/-!
# The balance of the counts

No run is a success and a crash at once, only a run that ended by itself has a duration and can print
a marker, and a run that did not end by itself is a crash. `Counts.Balanced` says what follows for the
counts; one iteration keeps it, whatever became of the run, so it holds at every `Stage` of a soak, of
those too that end early, and in every summary.
-/

namespace SoakRig.Soak

/-- The counts that belong to so many iterations. -/
structure Counts where
  iterations : Nat
  successes : Nat
  rateLimits : Nat
  retriableSeen : Nat
  crashes : Nat
  samples : Nat
deriving DecidableEq

/-- What a tally says after so many iterations. -/
def Tally.counts (t : Tally) (iterations : Nat) : Counts :=
  ⟨iterations, t.successes, t.rateLimits, t.retriableSeen, t.crashes, t.durations.length⟩

/-- What a summary says. -/
def Summary.counts (s : Summary) : Counts :=
  ⟨s.iterations.toNat, s.successes.toNat, s.rateLimits.toNat, s.retriableSeen.toNat,
    s.crashes.toNat, s.samples.toNat⟩

namespace Counts

/-- The counts do not contradict each other. -/
structure Balanced (c : Counts) : Prop where
  exclusive : c.successes + c.crashes ≤ c.iterations
  judged : c.successes + c.rateLimits ≤ c.samples
  sampled : c.samples ≤ c.iterations
  marked : c.retriableSeen ≤ c.samples
  unsampled : c.iterations - c.samples ≤ c.crashes
  /-- A run with a duration was a success, met a rate limit or crashed. -/
  accounted : c.samples ≤ c.successes + c.rateLimits + c.crashes

/-- The numbers that are kept in words of 32 bits. -/
def words (c : Counts) : List Nat := [c.successes, c.rateLimits, c.retriableSeen, c.crashes]

variable {c d : Counts}

/-- No count is greater than the number of iterations. -/
lemma Balanced.le_iterations (balanced : c.Balanced) : ∀ n ∈ c.words, n ≤ c.iterations := by
  have := balanced.exclusive
  have := balanced.judged
  have := balanced.sampled
  have := balanced.marked
  intro n mem
  simp only [words, List.mem_cons, List.not_mem_nil, or_false] at mem
  omega

/-- Without a crash every run ended by itself, and was a success or met a rate limit. -/
lemma Balanced.of_no_crash (balanced : c.Balanced) (none_crashed : c.crashes = 0) :
    c.samples = c.iterations ∧ c.iterations = c.successes + c.rateLimits := by
  have := balanced.judged
  have := balanced.sampled
  have := balanced.unsampled
  have := balanced.accounted
  omega

end Counts

/-- What one iteration adds to the counts. -/
def Iteration.counts (i : Iteration) : Counts :=
  ⟨1, Tally.one i.outcome.success, Tally.one (i.outcome.status = .rateLimit),
    Tally.one i.outcome.retriable, Tally.one i.outcome.crashed, i.seconds.toList.length⟩

/-- One iteration by itself is in balance, whatever became of its run. -/
lemma balanced_ofAttempt (index : UInt32) (a : Attempt) :
    (Iteration.ofAttempt index a).counts.Balanced := by
  rw [Iteration.counts, success_ofAttempt, rateLimit_ofAttempt, retriable_ofAttempt,
    crashed_ofAttempt, seconds_ofAttempt]
  cases a with
  | completed exitCode output duration =>
    -- the exit code and the two markers decide, each of them by itself
    simp only [Attempt.clean]
    generalize Attempt.failing _ = failing
    generalize Attempt.printed Outcome.rateLimitMarker _ = limited
    generalize Attempt.printed Outcome.retriableMarker _ = retried
    show Counts.Balanced ⟨1, _, _, _, _, 1⟩
    cases failing <;> cases limited <;> cases retried <;> constructor <;> decide
  | timedOut => constructor <;> decide
  | failed e =>
    show Counts.Balanced ⟨1, 0, 0, 0, 1, 0⟩
    constructor <;> decide

/-- One more iteration keeps the balance. -/
lemma balanced_record {t : Tally} {i : Nat} (balanced : (t.counts i).Balanced) (index : UInt32)
    (a : Attempt) : ((t.record (Iteration.ofAttempt index a)).counts (i + 1)).Balanced := by
  have turn := balanced_ofAttempt index a
  generalize Iteration.ofAttempt index a = iteration at turn
  obtain ⟨exclusive, judged, sampled, marked, unsampled, accounted⟩ := balanced
  obtain ⟨exclusive', judged', sampled', marked', unsampled', accounted'⟩ := turn
  simp only [Tally.counts, Iteration.counts] at *
  constructor <;> simp only [Tally.record, List.length_append] <;> omega

variable {σ : Type} {runner : Runner σ} {config : Config} {p q r : Progress σ} {i : Nat}

/-- How far a soak has come right after so many iterations. -/
inductive Stage (runner : Runner σ) (config : Config) (p : Progress σ) :
    Nat → Progress σ → Prop where
  | start : Stage runner config p 0 (begun runner config p)
  | turn {i q a r} (before : Stage runner config p i q) (more : i < config.iterations.toNat)
      (turn : iterate runner config (UInt32.ofNat (i + 1))
        (rested config (config.iterations.toNat - i) q) = (.ok a, r)) :
      Stage runner config p (i + 1) r

lemma Stage.le (stage : Stage runner config p i q) : i ≤ config.iterations.toNat := by
  induction stage with
  | start => exact Nat.zero_le _
  | turn _ more _ _ => exact more

/-- The counts are in balance at every stage. -/
lemma Stage.balanced (fresh : p.tally = .empty) (stage : Stage runner config p i q) :
    (q.tally.counts i).Balanced := by
  induction stage with
  | start =>
    rw [begun, fresh]
    constructor <;> decide
  | @turn i q a r _ _ turn ih =>
    obtain ⟨-, -, e⟩ := iterate_ok turn
    rw [e, rested_tally]
    exact balanced_record ih _ a

/-- At every stage the counts are small enough for words of 32 bits. -/
lemma Stage.words_lt (fresh : p.tally = .empty) (stage : Stage runner config p i q) :
    ∀ n ∈ (q.tally.counts i).words, n < UInt32.size := by
  intro n mem
  apply Nat.lt_of_le_of_lt _ config.iterations.toNat_lt
  exact Nat.le_trans ((stage.balanced fresh).le_iterations n mem) stage.le

/-- An iteration that cannot be told is not counted. -/
lemma tally_of_untold {index : UInt32} {e : Error}
    (turn : iterate runner config index p = (.error e, q)) : q.tally = p.tally := by
  generalize w : p.out.write (block config.verbose config.timeout index
    (answer runner config index p)) = written
  obtain ⟨_ | ⟨⟩, out⟩ := written
  · rw [iterate_of_refused w] at turn
    cases turn
    rfl
  · rw [iterate_of_written w] at turn
    cases turn

lemma tally_of_finish : (finish config p).2.tally = p.tally := by
  generalize w : p.out.write (p.summary config).render = written
  obtain ⟨_ | ⟨⟩, out⟩ := written
  · rw [finish_of_refused w]
  · rw [finish_of_written w]
    rfl

/-- From a stage on, the iterations lead to another stage, and to the last one if all are told. -/
lemma Stage.iterations {left : Nat} (stage : Stage runner config p i q)
    (total : i + left = config.iterations.toNat) :
    ∃ k r, Stage runner config p k r ∧
      (iterations runner config left (i + 1) (rested config left q)).2.tally = r.tally ∧
      ((iterations runner config left (i + 1) (rested config left q)).1 = .ok () →
        k = config.iterations.toNat) := by
  induction left generalizing i q with
  | zero =>
    rw [rested_zero]
    exact ⟨i, q, stage, rfl, fun _ => total⟩
  | succ left ih =>
    have more : i < config.iterations.toNat := by omega
    have left_eq : left + 1 = config.iterations.toNat - i := by omega
    generalize e : iterate runner config (UInt32.ofNat (i + 1)) (rested config (left + 1) q) = turn
    obtain ⟨_ | a, r⟩ := turn
    · -- the soak ends with this iteration, which is not counted
      rw [iterations_of_error e]
      refine ⟨i, q, stage, ?_, fun told => by cases told⟩
      rw [tally_of_untold e, rested_tally]
    · rw [iterations_of_ok e]
      rw [left_eq] at e
      exact ih (.turn stage more e) (by omega)

/-- However a soak ends, it has come to some stage, and to the last one if it sums up. -/
lemma exists_stage (none_yet : p.calls = []) :
    ∃ k r, Stage runner config p k r ∧ (run runner config p).2.tally = r.tally ∧
      ∀ s, (run runner config p).1 = .ok s →
        k = config.iterations.toNat ∧ s = r.summary config := by
  by_cases command : config.command = []
  · rw [run_of_no_command command]
    exact ⟨0, _, .start, rfl, fun s summed => by cases summed⟩
  have first : Stage runner config p 0 (begun runner config p) := .start
  obtain ⟨k, r, stage, tally, last⟩ := first.iterations (Nat.zero_add config.iterations.toNat)
  rw [rested_of_no_calls (show (begun runner config p).calls = [] from none_yet), begun] at tally last
  rw [run, if_neg command]
  generalize prepare config p.world = ready at tally last ⊢
  obtain ⟨_ | ⟨⟩, w⟩ := ready
  · exact ⟨0, _, .start, rfl, fun s summed => by cases summed⟩
  simp only [Nat.zero_add] at tally last ⊢
  generalize Soak.iterations runner config config.iterations.toNat 1 _ = told at tally last ⊢
  obtain ⟨_ | ⟨⟩, q⟩ := told
  · exact ⟨k, r, stage, tally, fun s summed => by cases summed⟩
  refine ⟨k, r, stage, ?_, fun s summed => ⟨last rfl, ?_⟩⟩
  · simp only
    rw [tally_of_finish, tally]
  · have finished : finish config q = (.ok s, (finish config q).2) := Prod.ext summed rfl
    obtain ⟨rfl, -, -⟩ := finish_ok finished
    rw [Progress.summary, tally, Progress.summary]

/-- Balanced counts of a whole soak fit into the words of its summary. -/
lemma counts_ofTally (command : List String) {iterations : UInt32} {t : Tally}
    (balanced : (t.counts iterations.toNat).Balanced) :
    (Summary.ofTally command iterations t).counts = t.counts iterations.toNat := by
  have fits {n : Nat} (le : n ≤ iterations.toNat) : (UInt32.ofNat n).toNat = n :=
    UInt32.toNat_ofNat_of_lt (Nat.lt_of_le_of_lt le iterations.toNat_lt)
  have samples : (UInt64.ofNat t.durations.length).toNat = t.durations.length := by
    apply UInt64.toNat_ofNat_of_lt
    exact Nat.lt_trans (Nat.lt_of_le_of_lt balanced.sampled iterations.toNat_lt) (by decide)
  have words := balanced.le_iterations
  simp only [Counts.words, Tally.counts, List.forall_mem_cons] at words
  obtain ⟨successes, rateLimits, retriableSeen, crashes, -⟩ := words
  simp only [Summary.counts, Summary.ofTally, Tally.counts, fits successes, fits rateLimits,
    fits retriableSeen, fits crashes, samples]

lemma exitCode_eq_zero_iff (s : Summary) : s.exitCode = 0 ↔ s.counts.crashes = 0 := by
  have same : s.counts.crashes = 0 ↔ s.crashes = 0 := by
    rw [Summary.counts, ← UInt32.toNat_zero, UInt32.toNat_inj]
  rw [same, Summary.exitCode]
  by_cases zero : s.crashes = 0
  · rw [if_pos zero]
    exact iff_of_true rfl zero
  · rw [if_neg zero]
    exact iff_of_false (by decide) zero

/--
At every stage of every soak the counts are in balance and fit into words of 32 bits. However the
soak ends, its tally is that of a stage; if it sums up, the summary says exactly what the last stage
counted, and if it stands for exit code zero, every run ended by itself and either was a success or
met a rate limit.
-/
theorem run_balanced (runner : Runner σ) (config : Config) (state : σ) (world : World)
    (out : Sink) :
    (∀ i q, Stage runner config (.start state world out) i q →
      (q.tally.counts i).Balanced ∧ ∀ n ∈ (q.tally.counts i).words, n < UInt32.size) ∧
    ∃ k q, Stage runner config (.start state world out) k q ∧
      (run runner config (.start state world out)).2.tally = q.tally ∧
      ∀ s, (run runner config (.start state world out)).1 = .ok s →
        k = config.iterations.toNat ∧ s.counts = q.tally.counts k ∧ s.counts.Balanced ∧
        (s.exitCode = 0 → s.counts.samples = s.counts.iterations ∧
          s.counts.iterations = s.counts.successes + s.counts.rateLimits) := by
  refine ⟨fun i q stage => ⟨stage.balanced rfl, stage.words_lt rfl⟩, ?_⟩
  obtain ⟨k, q, stage, tally, summed⟩ := exists_stage (p := .start state world out) rfl
  refine ⟨k, q, stage, tally, fun s ok => ?_⟩
  obtain ⟨rfl, rfl⟩ := summed s ok
  have balanced := stage.balanced rfl
  have exact_counts : (q.summary config).counts = q.tally.counts config.iterations.toNat :=
    counts_ofTally config.command balanced
  rw [exitCode_eq_zero_iff, exact_counts]
  exact ⟨rfl, rfl, balanced, balanced.of_no_crash⟩

/-- With a writer without a bound every stage is reached. -/
lemma stage_reached (runner : Runner σ) (config : Config) (state : σ) (world : World) {k : Nat}
    (le : k ≤ config.iterations.toNat) :
    Stage runner config (.start state world .unbounded) k
      (reached runner config state world k) := by
  induction k with
  | zero => exact .start
  | succ k ih =>
    obtain ⟨a, turn⟩ := iterate_reached runner config state world k
      (show config.iterations.toNat - k ≠ 0 by omega)
    rw [Nat.add_comm 1] at turn
    exact .turn (ih (by omega)) le turn

/-- A script without a crash: a success, and a rate limit that the client got over. -/
def calmScript : Script where
  attempts := [.completed 0 "Retriable error on attempt 1/3" (.ofMilliseconds 100)]
  fallback := .completed 0 "Rate limit exceeded" (.ofMilliseconds 10)

/-- The counts after three iterations of the mixed soak, and those of a soak without a crash. -/
theorem run_balanced_mixed :
    (∃ q, Stage (scripted 0) mixedConfig (.start mixedScript (.still .fresh 0) .unbounded) 3 q ∧
      q.tally.counts 3 = ⟨3, 1, 1, 2, 2, 2⟩ ∧ (q.tally.counts 3).Balanced) ∧
    ∃ s, (run (scripted 0) mixedConfig
        (.start calmScript (.still .fresh 0) .unbounded)).1 = .ok s ∧
      s.counts = ⟨6, 1, 5, 1, 0, 6⟩ ∧ s.exitCode = 0 ∧ s.counts.samples = s.counts.iterations := by
  constructor
  · have stage := stage_reached (scripted 0) mixedConfig mixedScript (.still .fresh 0)
      (k := 3) (by decide)
    obtain ⟨laws, -⟩ :=
      run_balanced (scripted 0) mixedConfig mixedScript (.still .fresh 0) .unbounded
    refine ⟨_, stage, ?_, (laws 3 _ stage).1⟩
    decide +kernel
  · obtain ⟨last, ran, -⟩ := run_unbounded (scripted 0) mixedConfig calmScript
      (.still .fresh 0) (by decide) usable_mixed
    obtain ⟨-, k, q, -, -, summed⟩ :=
      run_balanced (scripted 0) mixedConfig calmScript (.still .fresh 0) .unbounded
    obtain ⟨-, -, -, calm⟩ := summed _ (congrArg Prod.fst ran)
    have zero : ((reached (scripted 0) mixedConfig calmScript (.still .fresh 0)
        mixedConfig.iterations.toNat).summary mixedConfig).exitCode = 0 := by
      decide +kernel
    refine ⟨_, congrArg Prod.fst ran, ?_, zero, (calm zero).1⟩
    decide +kernel

end SoakRig.Soak
