import Mathlib.Data.Nat.Find
import SoakRig.Proofs.Soak.Course

/-!
# Soaks with a writer that runs full

A soak whose writer takes so many bytes runs like the same soak with a writer that takes everything,
up to the iteration whose text passes the bound. `Sink.cut` says what a sink with a bound would have
taken of the bytes that another one took; each iteration that fits keeps the two soaks side by side,
and the first one that does not fit is the last one of the soak with the bound.
-/

namespace SoakRig

/-- What a sink with a bound would have taken in place of this one. -/
def Sink.cut (s : Sink) (bound : Nat) (refusal : SystemError) : Sink :=
  ⟨some (bound - s.taken.length), refusal, (s.bytes.take bound).reverse⟩

namespace Sink

variable {s s' : Sink} {bound : Nat} {refusal : SystemError}

@[simp] lemma length_bytes : s.bytes.length = s.taken.length := List.length_reverse

/-- The bytes that were taken within a bound are the first of all bytes. -/
@[simp] lemma bytes_cut : (s.cut bound refusal).bytes = s.bytes.take bound := by
  rw [cut, bytes, List.reverse_reverse]

/-- A bound from the start is a bound on a sink that took nothing yet. -/
lemma bounded_eq_cut : bounded bound refusal = unbounded.cut bound refusal := by
  simp [bounded, unbounded, cut, bytes]

variable (refusal) in
/-- A sink with a bound takes a text in full exactly if all bytes so far fit. -/
lemma write_cut {text : String} (fits : s.taken.length ≤ bound)
    (written : s.write text = (.ok (), s')) :
    (s.cut bound refusal).write text =
      (if s'.taken.length ≤ bound then .ok () else .error refusal, s'.cut bound refusal) := by
  have text_at : s'.bytes = s.bytes ++ Text.utf8 text.toList := bytes_of_write written
  have lengths := congrArg List.length text_at
  simp only [length_bytes, List.length_append] at lengths
  have before : s.bytes.take bound = s.bytes := List.take_of_length_le (by simpa using fits)
  rw [write, offer, cut, before]
  simp only
  by_cases all : s'.taken.length ≤ bound
  · have part : (Text.utf8 text.toList).length ≤ bound - s.taken.length := by omega
    have whole : s'.bytes.take bound = s'.bytes := List.take_of_length_le (by simpa using all)
    rw [if_pos part, if_pos all, cut, whole, text_at, lengths, List.reverse_append,
      Nat.sub_add_eq]
  · have part : ¬(Text.utf8 text.toList).length ≤ bound - s.taken.length := by omega
    have full : bound - s'.taken.length = 0 := by omega
    rw [if_neg part, if_neg all, cut, text_at, List.take_append, length_bytes, before,
      List.reverse_append, full]

end Sink

namespace Soak

variable {σ : Type} {runner : Runner σ} {config : Config} {p q : Progress σ}
  {bound : Nat} {refusal : SystemError}

/-- What a soak with a bound would have come to in place of this one. -/
def Progress.cut (p : Progress σ) (bound : Nat) (refusal : SystemError) : Progress σ :=
  { p with out := p.out.cut bound refusal }

/-- The bytes that a soak wrote so far. -/
def Progress.written (p : Progress σ) : Nat := p.out.taken.length

/-- The sink of a soak with a bound. -/
lemma out_cut (bound : Nat) (refusal : SystemError) :
    (p.cut bound refusal).out = p.out.cut bound refusal := rfl

/-- The calls are answered in the same way with a bound. -/
lemma answer_cut (bound : Nat) (refusal : SystemError) {index : UInt32} :
    answer runner config index (p.cut bound refusal) = answer runner config index p := rfl

/-- Notes are taken in the same way with a bound. -/
lemma noted_cut (bound : Nat) (refusal : SystemError) {index : UInt32} :
    noted runner config index (p.cut bound refusal) =
      (noted runner config index p).cut bound refusal := rfl

/-- The report is the same with a bound. -/
lemma summary_cut (bound : Nat) (refusal : SystemError) :
    (p.cut bound refusal).summary config = p.summary config := rfl

variable (refusal) in
/-- An iteration with a bound is the same if it fits, and else it is refused after the same call. -/
lemma iterate_cut {index : UInt32} {a : Attempt}
    (turn : iterate runner config index p = (.ok a, q)) (before : p.written ≤ bound) :
    iterate runner config index (p.cut bound refusal) =
      if q.written ≤ bound then (.ok a, q.cut bound refusal)
      else (.error (.io refusal), { q.cut bound refusal with tally := p.tally }) := by
  obtain ⟨rfl, written, e⟩ := iterate_ok turn
  have cut := Sink.write_cut refusal before written
  rw [← out_cut, ← answer_cut bound refusal] at cut
  by_cases fits : q.written ≤ bound
  · rw [if_pos (show q.out.taken.length ≤ bound from fits)] at cut
    rw [if_pos fits, iterate_of_written cut, noted_cut]
    generalize q.out = out at e
    rw [e]
    rfl
  · rw [if_neg (show ¬q.out.taken.length ≤ bound from fits)] at cut
    rw [if_neg fits, iterate_of_refused cut, noted_cut]
    generalize q.out = out at e
    rw [e]
    rfl

/-- The report of a soak with a bound is the same if it fits, and else it is refused. -/
lemma finish_cut {s : Summary} (finished : finish config p = (.ok s, q))
    (before : p.written ≤ bound) :
    finish config (p.cut bound refusal) =
      if q.written ≤ bound then (.ok s, q.cut bound refusal)
      else (.error (.io refusal), { p with out := q.out.cut bound refusal }) := by
  obtain ⟨rfl, written, e⟩ := finish_ok finished
  have cut := Sink.write_cut refusal before written
  rw [← out_cut, ← summary_cut bound refusal] at cut
  by_cases fits : q.written ≤ bound
  · rw [if_pos (show q.out.taken.length ≤ bound from fits)] at cut
    rw [if_pos fits, finish_of_written cut, summary_cut]
    generalize q.out = out at e
    rw [e]
    rfl
  · rw [if_neg (show ¬q.out.taken.length ≤ bound from fits)] at cut
    rw [if_neg fits, finish_of_refused cut]
    rfl

/-- A pause is the same with a bound. -/
lemma rested_cut {left : Nat} :
    rested config left (p.cut bound refusal) = (rested config left p).cut bound refusal := by
  obtain ⟨state, world, out, tally, _ | ⟨c, calls⟩⟩ := p <;> rfl

/-- What was written stays written. -/
lemma written_le_of_iterate {index : UInt32} {a : Attempt}
    (turn : iterate runner config index p = (.ok a, q)) : p.written ≤ q.written := by
  obtain ⟨-, written, -⟩ := iterate_ok turn
  have lengths := congrArg List.length (Sink.bytes_of_write written)
  simp only [Sink.length_bytes, List.length_append] at lengths
  simp only [Progress.written]
  omega

/-- What was written stays written, however many iterations follow. -/
lemma written_le_of_iterations {left i : Nat}
    (told : iterations runner config left i p = (.ok (), q)) : p.written ≤ q.written := by
  refine iterations_induct (P := fun _ r => p.written ≤ r.written) ?turn ?rest le_rfl told
  case turn => exact fun h turn => le_trans h (written_le_of_iterate turn)
  case rest => exact fun h => by simpa [Progress.written] using h

/-- Iterations that fit are the same with a bound. -/
lemma iterations_cut {left i : Nat} (told : iterations runner config left i p = (.ok (), q))
    (fits : q.written ≤ bound) :
    iterations runner config left i (p.cut bound refusal) = (.ok (), q.cut bound refusal) := by
  induction left generalizing i p with
  | zero =>
    cases told
    rfl
  | succ left ih =>
    obtain ⟨a, r, e, told⟩ := iterations_succ told
    -- the bytes only grow, so what fits at the end fits after this iteration
    have later := written_le_of_iterations told
    have first : r.written ≤ bound := by
      simp only [Progress.written, rested_out] at later fits ⊢
      omega
    have turn := iterate_cut refusal e (le_trans (written_le_of_iterate e) first)
    rw [if_pos first] at turn
    rw [iterations_of_ok turn, rested_cut]
    exact ih told

/-- The first iteration that does not fit is the last one with a bound. -/
lemma iterations_cut_beyond {k left i : Nat} {a : Attempt} {r : Progress σ}
    (told : iterations runner config k i p = (.ok (), q)) (fits : q.written ≤ bound)
    (hk : k ≠ 0 ∨ p.calls = [])
    (turn : iterate runner config (UInt32.ofNat (i + k)) (rested config (left + 1) q) = (.ok a, r))
    (beyond : bound < r.written) :
    iterations runner config (k + (left + 1)) i (p.cut bound refusal) =
      (.error (.io refusal), { r.cut bound refusal with tally := q.tally }) := by
  have before : (rested config (left + 1) q).written ≤ bound := by
    rwa [Progress.written, rested_out]
  have refused := iterate_cut refusal turn before
  rw [if_neg (not_le_of_gt beyond), rested_tally] at refused
  rw [iterations_add (iterations_cut told fits) hk, rested_cut]
  exact iterations_of_error refused

/-- How far a soak that starts with a writer without a bound has come after so many iterations. -/
def reached (runner : Runner σ) (config : Config) (state : σ) (world : World) (k : Nat) :
    Progress σ :=
  (iterations runner config k 1 (begun runner config (.start state world .unbounded))).2

section Reached

variable (runner : Runner σ) (config : Config) (state : σ) (world : World)

/-- With a writer without a bound every number of iterations is reached. -/
lemma iterations_reached (k : Nat) :
    iterations runner config k 1 (begun runner config (.start state world .unbounded)) =
        (.ok (), reached runner config state world k) ∧
      (reached runner config state world k).out.room = none := by
  obtain ⟨q, told, room⟩ := iterations_of_room_none (p := begun runner config
    (.start state world .unbounded)) runner config k 1 rfl
  rw [reached, told]
  exact ⟨rfl, room⟩

/-- What is reached lies on the way of a longer soak. -/
lemma reached_add (k m : Nat) :
    iterations runner config m (1 + k) (rested config m (reached runner config state world k)) =
      (.ok (), reached runner config state world (k + m)) := by
  rw [← iterations_add (iterations_reached runner config state world k).1 (.inr rfl)]
  exact (iterations_reached runner config state world (k + m)).1

/-- One more iteration leads from one number of iterations to the next one. -/
lemma iterate_reached (k : Nat) {left : Nat} (hl : left ≠ 0) : ∃ a,
    iterate runner config (UInt32.ofNat (1 + k))
        (rested config left (reached runner config state world k)) =
      (.ok a, reached runner config state world (k + 1)) := by
  have room : (rested config left (reached runner config state world k)).out.room = none := by
    rw [rested_out]
    exact (iterations_reached runner config state world k).2
  obtain ⟨a, q, turn, -⟩ := iterate_of_room_none runner config (UInt32.ofNat (1 + k)) room
  have one_more := reached_add runner config state world k 1
  rw [rested_congr Nat.one_ne_zero hl, iterations_of_ok turn, rested_zero] at one_more
  cases one_more
  exact ⟨a, turn⟩

/-- The calls that are reached are the first ones of a longer soak. -/
lemma calls_reached (k m : Nat) :
    (reached runner config state world k).calls.reverse =
      (reached runner config state world (k + m)).calls.reverse.take k := by
  obtain ⟨first, length, calls⟩ :=
    calls_of_iterations (iterations_reached runner config state world k).1
  obtain ⟨more, -, added⟩ := calls_of_iterations (reached_add runner config state world k m)
  have all : (reached runner config state world k).calls.reverse.length = k := by
    rw [calls, List.length_reverse, List.length_append, length]
    rfl
  rw [rested_calls] at added
  rw [added, List.reverse_append, List.take_left' all]

/-- The text that is reached is the text on the first attempts of a longer soak. -/
lemma written_reached (k m : Nat) :
    (reached runner config state world k).out.bytes =
      story config ((reached runner config state world (k + m)).attempts.take k) := by
  rw [bytes_of_iterations rfl rfl (iterations_reached runner config state world k).1,
    Progress.attempts, Progress.attempts, ← List.map_take, ← calls_reached]

/-- The text that is reached is the beginning of all text on the iterations. -/
lemma prefix_bytes_reached (k m : Nat) :
    (reached runner config state world k).out.bytes <+:
      (reached runner config state world (k + m)).out.bytes := by
  rw [written_reached runner config state world k m,
    bytes_of_iterations rfl rfl (iterations_reached runner config state world (k + m)).1]
  conv_rhs => rw [← List.take_append_drop k (reached runner config state world (k + m)).attempts]
  exact prefix_story _ _

/-- The text only grows. -/
lemma written_reached_le {j k : Nat} (hj : j ≤ k) :
    (reached runner config state world j).written ≤
      (reached runner config state world k).written := by
  obtain ⟨m, rfl⟩ := Nat.exists_eq_add_of_le hj
  have := (prefix_bytes_reached runner config state world j m).length_le
  rwa [Sink.length_bytes, Sink.length_bytes] at this

/-- Without a bound the report follows on all iterations. -/
lemma run_unbounded (command : config.command ≠ []) (usable : config.Usable world.files) :
    let r := reached runner config state world config.iterations.toNat
    ∃ last, run runner config (.start state world .unbounded) = (.ok (r.summary config), last) ∧
      finish config r = (.ok (r.summary config), last) ∧ last.calls = r.calls ∧
      last.world.files = r.world.files ∧
      last.out.bytes = r.out.bytes ++ Text.utf8 (r.summary config).render.toList := by
  intro r
  obtain ⟨told, room⟩ := iterations_reached runner config state world config.iterations.toNat
  obtain ⟨last, finished, kept⟩ := finish_of_room_none config room
  exact ⟨last, by rw [run_of_told command usable told, finished], finished, kept⟩

/-- A bound is a bound from the start. -/
lemma begun_bounded (bound : Nat) (refusal : SystemError) :
    begun runner config (.start state world (.bounded bound refusal)) =
      (begun runner config (.start state world .unbounded)).cut bound refusal := by
  rw [Sink.bounded_eq_cut]
  rfl

/-- If the iterations fit, only the report may pass the bound. -/
lemma run_bounded_of_fits {bound : Nat} (refusal : SystemError) (command : config.command ≠ [])
    (usable : config.Usable world.files)
    (fits : (reached runner config state world config.iterations.toNat).written ≤ bound) :
    run runner config (.start state world (.bounded bound refusal)) =
      finish config
        ((reached runner config state world config.iterations.toNat).cut bound refusal) := by
  apply run_of_told command usable
  rw [begun_bounded]
  exact iterations_cut (iterations_reached runner config state world _).1 fits

/-- If an iteration passes the bound, it is the last one. -/
lemma run_bounded_of_beyond {bound k : Nat} (refusal : SystemError) (command : config.command ≠ [])
    (usable : config.Usable world.files) (hk : k < config.iterations.toNat)
    (fits : (reached runner config state world k).written ≤ bound)
    (beyond : bound < (reached runner config state world (k + 1)).written) :
    run runner config (.start state world (.bounded bound refusal)) =
      (.error (.io refusal),
        { (reached runner config state world (k + 1)).cut bound refusal with
          tally := (reached runner config state world k).tally }) := by
  obtain ⟨left, more⟩ : ∃ left, config.iterations.toNat = k + (left + 1) :=
    ⟨config.iterations.toNat - k - 1, by omega⟩
  obtain ⟨a, turn⟩ := iterate_reached runner config state world k (Nat.succ_ne_zero left)
  apply run_of_untold command usable
  rw [begun_bounded, more]
  exact iterations_cut_beyond (iterations_reached runner config state world k).1 fits (.inr rfl)
    turn beyond

/-- A soak with a bound has made the first iterations of the same soak without one. -/
structure CutAfter (bound : Nat) (refusal : SystemError) (k : Nat)
    (full short : Except Error Summary × Progress σ) : Prop where
  text : short.2.out.bytes = full.2.out.bytes.take bound
  result : short.1 = if full.2.out.bytes.length ≤ bound then full.1 else .error (.io refusal)
  calls : short.2.calls.reverse = full.2.calls.reverse.take k
  files : short.2.world.files = (reached runner config state world k).world.files

/-- If the iterations fit, they are all made, and the report is written as far as it fits. -/
lemma cutAfter_of_fits {bound : Nat} (refusal : SystemError) (command : config.command ≠ [])
    (usable : config.Usable world.files)
    (fits : (reached runner config state world config.iterations.toNat).written ≤ bound) :
    CutAfter runner config state world bound refusal config.iterations.toNat
      (run runner config (.start state world .unbounded))
      (run runner config (.start state world (.bounded bound refusal))) := by
  obtain ⟨last, ran, finished, calls, files, -⟩ :=
    run_unbounded runner config state world command usable
  have all_calls := calls_reached runner config state world config.iterations.toNat 0
  rw [ran, run_bounded_of_fits runner config state world refusal command usable fits,
    finish_cut finished fits]
  -- the report passes the bound, or nothing does
  by_cases all : last.written ≤ bound
  · rw [if_pos all]
    refine ⟨Sink.bytes_cut, ?_, ?_, files⟩
    · rw [if_pos (by rwa [Sink.length_bytes])]
    · exact (congrArg List.reverse calls).trans (calls ▸ all_calls)
  · rw [if_neg all]
    refine ⟨Sink.bytes_cut, ?_, ?_, rfl⟩
    · rw [if_neg (by rwa [Sink.length_bytes])]
    · exact calls ▸ all_calls

/-- If an iteration passes the bound, it is the last one that is made. -/
lemma cutAfter_of_beyond {bound k : Nat} (refusal : SystemError) (command : config.command ≠ [])
    (usable : config.Usable world.files) (hk : k < config.iterations.toNat)
    (fits : (reached runner config state world k).written ≤ bound)
    (beyond : bound < (reached runner config state world (k + 1)).written) :
    CutAfter runner config state world bound refusal (k + 1)
      (run runner config (.start state world .unbounded))
      (run runner config (.start state world (.bounded bound refusal))) := by
  obtain ⟨last, ran, -, calls, -, bytes⟩ :=
    run_unbounded runner config state world command usable
  obtain ⟨more, number⟩ := Nat.exists_eq_add_of_le (Nat.succ_le_of_lt hk)
  have some_calls := calls_reached runner config state world (k + 1) more
  have beginning : (reached runner config state world (k + 1)).out.bytes <+: last.out.bytes := by
    rw [bytes, number]
    exact (prefix_bytes_reached runner config state world (k + 1) more).trans
      (List.prefix_append _ _)
  rw [Progress.written, ← Sink.length_bytes] at beyond
  rw [ran, run_bounded_of_beyond runner config state world refusal command usable hk fits (by
    rwa [Progress.written, ← Sink.length_bytes])]
  refine ⟨?_, ?_, ?_, rfl⟩
  · obtain ⟨rest, text⟩ := beginning
    rw [← text, List.take_append_of_le_length (Nat.le_of_lt beyond)]
    exact Sink.bytes_cut
  · rw [if_neg (Nat.not_le_of_lt (Nat.lt_of_lt_of_le beyond beginning.length_le))]
  · rw [calls, number]
    exact some_calls

/-- With a bound a soak ends with the first iteration that passes it, or else with the last one. -/
lemma exists_cutAfter (bound : Nat) (refusal : SystemError) (command : config.command ≠ [])
    (usable : config.Usable world.files) :
    ∃ k ≤ config.iterations.toNat,
      (∀ j < k, (reached runner config state world j).written ≤ bound) ∧
      (bound < (reached runner config state world k).written ∨ k = config.iterations.toNat) ∧
      CutAfter runner config state world bound refusal k
        (run runner config (.start state world .unbounded))
        (run runner config (.start state world (.bounded bound refusal))) := by
  by_cases fits : (reached runner config state world config.iterations.toNat).written ≤ bound
  · refine ⟨_, le_rfl, fun j hj => ?_, .inr rfl,
      cutAfter_of_fits runner config state world refusal command usable fits⟩
    exact le_trans (written_reached_le runner config state world (Nat.le_of_lt hj)) fits
  · have beyond : ∃ k, bound < (reached runner config state world k).written :=
      ⟨_, Nat.lt_of_not_le fits⟩
    -- the first number of iterations whose text passes the bound
    have passes := Nat.find_spec beyond
    have within {j : Nat} (hj : j < Nat.find beyond) :
        (reached runner config state world j).written ≤ bound :=
      Nat.le_of_not_lt (Nat.find_min beyond hj)
    have last_le : Nat.find beyond ≤ config.iterations.toNat :=
      Nat.find_min' beyond (Nat.lt_of_not_le fits)
    generalize Nat.find beyond = k at passes within last_le
    cases k with
    | zero => exact absurd passes (Nat.not_lt_zero _)
    | succ k =>
      exact ⟨k + 1, last_le, fun j hj => within hj, .inl passes, cutAfter_of_beyond runner config
        state world refusal command usable last_le (within (Nat.lt_succ_self k)) passes⟩

end Reached

/--
Beside a soak with a writer without a bound, the same soak with a bound writes the first bytes of
the text. It returns the same summary if the text fits, and else the refusal of the writer; its calls
and its files are those of the iterations up to the first one whose text passes the bound. Without a
command, or a directory that can be made, no call is made and nothing is written.
-/
theorem run_bounded (runner : Runner σ) (config : Config) (state : σ) (world : World) (bound : Nat)
    (refusal : SystemError) :
    let full := run runner config (.start state world .unbounded)
    let short := run runner config (.start state world (.bounded bound refusal))
    let ends (k : Nat) := (story config (full.2.attempts.take k)).length
    (config.command ≠ [] → config.Usable world.files →
      (∃ s, full.1 = .ok s ∧
        full.2.out.bytes = story config full.2.attempts ++ Text.utf8 s.render.toList) ∧
      ∃ k ≤ config.iterations.toNat, (∀ j < k, ends j ≤ bound) ∧
        (bound < ends k ∨ k = config.iterations.toNat) ∧
        CutAfter runner config state world bound refusal k full short) ∧
    (config.command = [] →
      short = (.error .emptyCommand, .start state world (.bounded bound refusal))) ∧
    ∀ dir e, config.command ≠ [] → config.logDir = some dir →
      (world.files.makeDirectories dir).1 = .error e →
      short.1 = .error (.io e) ∧ short.2.calls = [] ∧ short.2.out.bytes = [] := by
  intro full short ends
  refine ⟨fun command usable => ?_, fun command => ?_, fun dir e command found refused => ?_⟩
  · obtain ⟨last, ran, -, calls, -, bytes⟩ :=
      run_unbounded runner config state world command usable
    have attempts : full.2.attempts =
        (reached runner config state world config.iterations.toNat).attempts := by
      rw [show full = _ from ran, Progress.attempts, calls, Progress.attempts]
    have ends_eq {k : Nat} (hk : k ≤ config.iterations.toNat) :
        ends k = (reached runner config state world k).written := by
      have text := written_reached runner config state world k (config.iterations.toNat - k)
      rw [Nat.add_sub_cancel' hk, ← attempts] at text
      rw [Progress.written, ← Sink.length_bytes, text]
    obtain ⟨k, hk, within, last, cut⟩ :=
      exists_cutAfter runner config state world bound refusal command usable
    refine ⟨⟨_, congrArg Prod.fst ran, ?_⟩, k, hk, fun j hj => ?_, ?_, cut⟩
    · rw [attempts,
        ← bytes_of_iterations rfl rfl (iterations_reached runner config state world _).1,
        ← bytes, show full = _ from ran]
    · rw [ends_eq (le_trans (Nat.le_of_lt hj) hk)]
      exact within j hj
    · rwa [ends_eq hk]
  · exact run_of_no_command command
  · have ran : ∃ files, short = (.error (.io e),
        { Progress.start state world (.bounded bound refusal) with
          world := { world with files } }) := run_of_refused command found refused
    obtain ⟨files, ran⟩ := ran
    rw [ran]
    exact ⟨rfl, rfl, rfl⟩

/-- A writer that runs full in the middle of the second iteration of the mixed soak. -/
theorem run_bounded_mixed :
    mixedConfig.command ≠ [] ∧ mixedConfig.Usable FileTree.fresh ∧
      CutAfter (scripted 0) mixedConfig mixedScript (.still .fresh 0) 100
        (.other "sink full") 2 (mixedSoak .unbounded)
        (mixedSoak (.bounded 100 (.other "sink full"))) ∧
      (mixedSoak (.bounded 100 (.other "sink full"))).1 = .error (.io (.other "sink full")) := by
  have command : mixedConfig.command ≠ [] := by decide
  obtain ⟨-, k, -, -, -, cut⟩ := (run_bounded (scripted 0) mixedConfig mixedScript
    (.still .fresh 0) 100 (.other "sink full")).1 command usable_mixed
  have two : (mixedSoak (.bounded 100 (.other "sink full"))).2.calls.length = 2 := by
    decide +kernel
  have six : (mixedSoak .unbounded).2.calls.length = 6 := by decide +kernel
  have number : 2 = min k 6 := by
    rw [← two, ← six]
    simpa [mixedSoak] using congrArg List.length cut.calls
  obtain rfl : k = 2 := by omega
  refine ⟨command, usable_mixed, cut, ?_⟩
  decide +kernel

end Soak

end SoakRig
