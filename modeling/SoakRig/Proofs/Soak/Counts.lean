import SoakRig.Proofs.Soak.Course

/-!
# What a soak counts

The summary of a soak tells of exactly the calls of the runner: how many of them crashed, were
clean, met a rate limit or a retry, and how long those took that ended by themselves. `Counted` is
the invariant; each iteration keeps it, whatever became of the call.
-/

namespace SoakRig.Soak

namespace Attempt

/-- The run timed out, could not happen, or ended with a code other than zero. -/
def failing : Attempt → Bool
  | completed exitCode _ _ => exitCode ≠ 0
  | timedOut => true
  | failed _ => true

/-- The run ended by itself and its output holds the marker. -/
def printed (marker : String) : Attempt → Bool
  | completed _ output _ => marker.toList <:+: output.toList
  | timedOut => false
  | failed _ => false

/-- The run ended by itself with code zero and met no rate limit. -/
def clean (a : Attempt) : Bool := !a.failing && !a.printed Outcome.rateLimitMarker

/-- How long the run took, if it ended by itself. -/
def seconds? : Attempt → Option Binary64
  | completed _ _ duration => some duration.seconds
  | timedOut => none
  | failed _ => none

end Attempt

/-- A marker is found in an output exactly if it stands there. -/
lemma marked_eq (marker output : String) :
    Outcome.marked marker output = decide (marker.toList <:+: output.toList) := by
  rw [Outcome.marked, Bool.eq_iff_iff, Text.holds_iff_infix, decide_eq_true_iff]

/-- The tally counts these attempts and no others. -/
structure Counted (attempts : List Attempt) (t : Tally) : Prop where
  successes : t.successes = attempts.countP Attempt.clean
  rateLimits : t.rateLimits = attempts.countP (Attempt.printed Outcome.rateLimitMarker)
  retriableSeen : t.retriableSeen = attempts.countP (Attempt.printed Outcome.retriableMarker)
  crashes : t.crashes = attempts.countP Attempt.failing
  durations : t.durations.reverse = attempts.filterMap Attempt.seconds?

/-- Before the first iteration nothing is counted. -/
lemma Counted.nil : Counted [] .empty := ⟨rfl, rfl, rfl, rfl, rfl⟩

section Verdict

variable (index : UInt32) (a : Attempt)

/-- An iteration has crashed exactly if its run was failing. -/
lemma crashed_ofAttempt : (Iteration.ofAttempt index a).outcome.crashed = a.failing := by
  cases a <;> simp [Iteration.ofAttempt, Outcome.classify, Attempt.failing, noExitCode]

/-- An iteration counts as retried exactly if its output says so. -/
lemma retriable_ofAttempt :
    (Iteration.ofAttempt index a).outcome.retriable = a.printed Outcome.retriableMarker := by
  cases a with
  | completed => exact marked_eq _ _
  | timedOut => rfl
  | failed => rfl

/-- An iteration shows a rate limit exactly if its output says so, whatever its exit code. -/
lemma rateLimit_ofAttempt :
    decide ((Iteration.ofAttempt index a).outcome.status = .rateLimit) =
      a.printed Outcome.rateLimitMarker := by
  cases a with
  | completed exitCode output duration =>
    simp only [Iteration.ofAttempt, Outcome.classify, Outcome.statusOf, marked_eq,
      Attempt.printed]
    by_cases limited : Outcome.rateLimitMarker.toList <:+: output.toList
    · simp [limited]
    · by_cases zero : exitCode = 0 <;> simp [limited, zero]
  | timedOut => rfl
  | failed => rfl

/-- An iteration is a success exactly if its run was clean. -/
lemma success_ofAttempt : (Iteration.ofAttempt index a).outcome.success = a.clean := by
  cases a with
  | completed exitCode output duration =>
    simp only [Iteration.ofAttempt, Outcome.classify, Outcome.statusOf, Outcome.success, marked_eq,
      Attempt.clean, Attempt.failing, Attempt.printed]
    by_cases limited : Outcome.rateLimitMarker.toList <:+: output.toList
    · simp [limited]
    · by_cases zero : exitCode = 0 <;> simp [limited, zero]
  | timedOut => rfl
  | failed => rfl

/-- An iteration has a duration exactly if its run ended by itself. -/
lemma seconds_ofAttempt : (Iteration.ofAttempt index a).seconds = a.seconds? := by
  cases a <;> rfl

end Verdict

/-- Counting one more attempt adds one if it is of the kind that is counted. -/
lemma countP_snoc (kind : Attempt → Bool) (attempts : List Attempt) (a : Attempt) :
    (attempts ++ [a]).countP kind = attempts.countP kind + Tally.one (kind a) := by
  simp [Tally.one, List.countP_append, List.countP_singleton]

/-- One more iteration counts one more attempt. -/
lemma Counted.record {attempts : List Attempt} {t : Tally} (counted : Counted attempts t)
    (index : UInt32) (a : Attempt) :
    Counted (attempts ++ [a]) (t.record (Iteration.ofAttempt index a)) where
  successes := by
    rw [countP_snoc, ← counted.successes, ← success_ofAttempt index]
    rfl
  rateLimits := by
    rw [countP_snoc, ← counted.rateLimits, ← rateLimit_ofAttempt index]
    rfl
  retriableSeen := by
    rw [countP_snoc, ← counted.retriableSeen, ← retriable_ofAttempt index]
    rfl
  crashes := by
    rw [countP_snoc, ← counted.crashes, ← crashed_ofAttempt index]
    rfl
  durations := by
    rw [Tally.record, List.reverse_append, counted.durations, seconds_ofAttempt,
      List.filterMap_append]
    cases a <;> rfl

/-- All iterations are counted, as many as there were. -/
lemma counted_of_iterations {σ : Type} {runner : Runner σ} {config : Config} {p q : Progress σ}
    {left i : Nat} (none_yet : p.calls = []) (zero : p.tally = .empty)
    (run : iterations runner config left i p = (.ok (), q)) :
    q.attempts.length = left ∧ Counted q.attempts q.tally := by
  have kept := iterations_induct
    (P := fun j r => i + r.attempts.length = j ∧ Counted r.attempts r.tally)
    (fun {j r a s} h turn => ?turn) (fun h => ?rest) (i := i) ?start run
  case turn =>
    obtain ⟨-, -, e⟩ := iterate_ok turn
    have tally : s.tally = r.tally.record (Iteration.ofAttempt (UInt32.ofNat j) a) := by rw [e]
    rw [attempts_of_iterate turn, tally]
    refine ⟨?_, h.2.record _ _⟩
    rw [List.length_append, ← h.1]
    rfl
  case rest => simpa [Progress.attempts] using h
  case start =>
    rw [Progress.attempts, none_yet, zero]
    exact ⟨rfl, .nil⟩
  exact ⟨by omega, kept.2⟩

/-- A summary tells of these attempts of a soak. -/
structure Summary.Tells (s : Summary) (config : Config) (attempts : List Attempt) : Prop where
  iterations : s.iterations = config.iterations
  calls : s.iterations.toNat = attempts.length
  crashes : s.crashes.toNat = attempts.countP Attempt.failing
  rateLimits : s.rateLimits.toNat = attempts.countP (Attempt.printed Outcome.rateLimitMarker)
  successes : s.successes.toNat = attempts.countP Attempt.clean
  retriableSeen : s.retriableSeen.toNat = attempts.countP (Attempt.printed Outcome.retriableMarker)
  samples : s.samples.toNat = attempts.countP Attempt.ended
  timing : s.timing = Timing.ofSamples (attempts.filterMap Attempt.seconds?)
  exitCode : s.exitCode = if attempts.any Attempt.failing then 2 else 0

/-- There are as many durations as runs that ended by themselves. -/
lemma length_filterMap_seconds? (attempts : List Attempt) :
    (attempts.filterMap Attempt.seconds?).length = attempts.countP Attempt.ended := by
  rw [List.length_filterMap_eq_countP]
  congr 1
  funext a
  cases a <;> rfl

/-- A summary of counted attempts tells of them, for no count exceeds the number of iterations. -/
lemma tells_ofTally {config : Config} {attempts : List Attempt} {t : Tally}
    (counted : Counted attempts t) (calls : attempts.length = config.iterations.toNat) :
    (Summary.ofTally config.command config.iterations t).Tells config attempts := by
  -- every count is at most the number of iterations, which fits
  have bound (kind : Attempt → Bool) : attempts.countP kind < 2 ^ 32 :=
    Nat.lt_of_le_of_lt (calls ▸ List.countP_le_length) config.iterations.toNat_lt
  have fits (kind : Attempt → Bool) :
      (UInt32.ofNat (attempts.countP kind)).toNat = attempts.countP kind :=
    UInt32.toNat_ofNat_of_lt (bound kind)
  have samples : t.durations.length = attempts.countP Attempt.ended := by
    rw [← length_filterMap_seconds?, ← counted.durations, List.length_reverse]
  have crashes : (Summary.ofTally config.command config.iterations t).crashes.toNat =
      attempts.countP Attempt.failing := by
    rw [Summary.ofTally, counted.crashes, fits]
  refine ⟨rfl, calls.symm, crashes, ?_, ?_, ?_, ?_, ?_, ?_⟩
  · rw [Summary.ofTally, counted.rateLimits, fits]
  · rw [Summary.ofTally, counted.successes, fits]
  · rw [Summary.ofTally, counted.retriableSeen, fits]
  · rw [Summary.ofTally, samples]
    exact UInt64.toNat_ofNat_of_lt (Nat.lt_trans (bound _) (by decide))
  · rw [Summary.ofTally, counted.durations]
  · have none_iff : (Summary.ofTally config.command config.iterations t).crashes = 0 ↔
        ¬attempts.any Attempt.failing := by
      rw [← UInt32.toNat_inj, crashes, UInt32.toNat_zero, List.countP_eq_zero]
      simp
    by_cases some_failing : attempts.any Attempt.failing
    · rw [Summary.exitCode, if_pos some_failing,
        if_neg (mt none_iff.1 (not_not_intro some_failing))]
      rfl
    · rw [Summary.exitCode, if_neg some_failing, if_pos (none_iff.2 some_failing)]

/--
With a command and a log directory, if there is to be one, a soak with a writer that takes
everything returns a summary that tells of exactly its calls.
-/
theorem run_tells {σ : Type} (runner : Runner σ) (config : Config) (state : σ) (world : World)
    (out : Sink) (command : config.command ≠ []) (usable : config.Usable world.files)
    (room : out.room = none) :
    ∃ s q, run runner config (.start state world out) = (.ok s, q) ∧ s.Tells config q.attempts := by
  obtain ⟨q, iterated, roomq⟩ := iterations_of_room_none (p := begun runner config
    (.start state world out)) runner config config.iterations.toNat 1 room
  obtain ⟨calls, counted⟩ := counted_of_iterations rfl rfl iterated
  obtain ⟨last, finished, same, -, -⟩ := finish_of_room_none config roomq
  have attempts : last.attempts = q.attempts := by rw [Progress.attempts, same, Progress.attempts]
  refine ⟨q.summary config, last, ?_, ?_⟩
  · rw [run_of_told command usable iterated, finished]
  · rw [attempts]
    exact tells_ofTally counted calls

/-- The counts of a soak in which a run of every kind occurs. -/
theorem run_tells_mixed :
    mixedConfig.command ≠ [] ∧ mixedConfig.Usable FileTree.fresh ∧
      ∃ s q, mixedSoak .unbounded = (.ok s, q) ∧ s.Tells mixedConfig q.attempts ∧
        s.crashes.toNat = 4 ∧ s.rateLimits.toNat = 2 ∧ s.successes.toNat = 1 ∧
        s.retriableSeen.toNat = 2 ∧ s.samples.toNat = 4 ∧ s.exitCode = 2 := by
  have command : mixedConfig.command ≠ [] := by decide
  obtain ⟨s, q, ran, tells⟩ := run_tells (scripted 0) mixedConfig mixedScript
    (.still .fresh 0) .unbounded command usable_mixed rfl
  have attempts := attempts_scripted ran
  refine ⟨command, usable_mixed, s, q, ran, tells, ?_, ?_, ?_, ?_, ?_, ?_⟩
  · rw [tells.crashes, attempts]
    decide +kernel
  · rw [tells.rateLimits, attempts]
    decide +kernel
  · rw [tells.successes, attempts]
    decide +kernel
  · rw [tells.retriableSeen, attempts]
    decide +kernel
  · rw [tells.samples, attempts]
    decide +kernel
  · rw [tells.exitCode, attempts]
    decide +kernel

end SoakRig.Soak
