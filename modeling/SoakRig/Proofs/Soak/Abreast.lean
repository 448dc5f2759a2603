import SoakRig.Proofs.Soak.Pacing

/-!
# Soaks that differ in their files

What becomes of the files makes no difference to a soak whose runner does not look at them. Two soaks
with the same configuration, up to the log directory, run `Abreast`: they call the client at the same
times with the same arguments, write the same text and count the same, whether their log directories
are full, missing or not asked for at all.
-/

namespace SoakRig.Soak

variable {σ : Type} {runner : Runner σ} {config : Config} {p q : Progress σ}

/-- Two worlds that differ in their files and reports only. -/
structure Alike (w w' : World) : Prop where
  clock : w.clock = w'.clock
  elapsed : w.elapsed = w'.elapsed

/-- It is as late in both. -/
lemma Alike.now {w w' : World} (alike : Alike w w') : w.now = w'.now := by
  rw [World.now, World.now, alike.clock, alike.elapsed]

/-- Two soaks that have come equally far, whatever is in their files and reports. -/
structure Abreast (p p' : Progress σ) : Prop where
  state : p.state = p'.state
  world : Alike p.world p'.world
  out : p.out = p'.out
  tally : p.tally = p'.tally
  calls : p.calls = p'.calls

/-- The runs of the client do not depend on files or reports. -/
def Runner.Blind (runner : Runner σ) : Prop :=
  ∀ args timeout state w w', Alike w w' →
    (runner.run args timeout state w).1 = (runner.run args timeout state w').1 ∧
    (runner.run args timeout state w).2.1 = (runner.run args timeout state w').2.1 ∧
    Alike (runner.run args timeout state w).2.2 (runner.run args timeout state w').2.2

/-- The same soak with another log directory, or none. -/
def Config.into (config : Config) (logDir : Option Path) : Config := { config with logDir }

section Beside

variable (logDir : Option Path) {index : UInt32} {w w' : World} {p' : Progress σ}

/-- Taking note leaves the clock alone. -/
@[simp] lemma clock_note (config : Config) (index : UInt32) (a : Attempt) (w : World) :
    (note config index a w).clock = w.clock := by
  cases a with
  | completed exitCode output duration =>
    rw [note, keepOutput]
    split
    · rfl
    · split <;> rfl
  | timedOut => rfl
  | failed => rfl

/-- Taking note is a matter of files and reports. -/
lemma Alike.note (alike : Alike w w') (a : Attempt) :
    Alike (Soak.note config index a w) (Soak.note (config.into logDir) index a w') := by
  constructor
  · rw [clock_note, clock_note, alike.clock]
  · rw [elapsed_note, elapsed_note, alike.elapsed]

/-- A pause is as long, wherever the files go. -/
lemma Alike.pause (alike : Alike w w') (left : Nat) (a : Attempt) :
    Alike (Soak.pause config left a w) (Soak.pause (config.into logDir) left a w') := by
  have passed (d : Duration) : Alike (w.pass d) (w'.pass d) := by
    refine ⟨alike.clock, ?_⟩
    rw [World.pass, World.pass, alike.elapsed]
  unfold Soak.pause Config.into
  split
  · exact passed _
  · exact alike

/-- A directory for the files takes no time. -/
lemma alike_prepare (config : Config) (w : World) : Alike (Soak.prepare config w).2 w := by
  unfold Soak.prepare
  split
  · exact ⟨rfl, rfl⟩
  · split <;> exact ⟨rfl, rfl⟩

/-- Whether a directory is made or not makes no difference to time. -/
lemma Alike.prepare (alike : Alike w w') :
    Alike (Soak.prepare config w).2 (Soak.prepare (config.into logDir) w').2 := by
  constructor
  · rw [(alike_prepare ..).clock, (alike_prepare ..).clock, alike.clock]
  · rw [(alike_prepare ..).elapsed, (alike_prepare ..).elapsed, alike.elapsed]

namespace Abreast

/-- A call is answered alike, and both soaks have come equally far by it. -/
lemma noted (blind : runner.Blind) (abreast : Abreast p p') :
    answer runner config index p = answer runner (config.into logDir) index p' ∧
      Abreast (noted runner config index p) (noted runner (config.into logDir) index p') := by
  have pending (args : List String) : Alike (p.world.report (pendingRecord index args))
      (p'.world.report (pendingRecord index args)) := ⟨abreast.world.clock, abreast.world.elapsed⟩
  have answers := blind (Template.render config.command index p.world.now) config.timeout p.state
    _ _ (pending (Template.render config.command index p.world.now))
  unfold answer Soak.noted call Config.into
  dsimp only
  rw [← abreast.state, ← abreast.world.now]
  obtain ⟨answered, moved, later⟩ := answers
  refine ⟨answered, moved, ?_, abreast.out, abreast.tally, ?_⟩
  · rw [← answered]
    exact later.note ..
  · rw [← answered, ← abreast.world.elapsed, abreast.calls]

/-- An iteration that is told beside another one is told there as well. -/
lemma iterate {a : Attempt} (blind : runner.Blind) (abreast : Abreast p p')
    (turn : iterate runner config index p = (.ok a, q)) :
    ∃ q', Soak.iterate runner (config.into logDir) index p' = (.ok a, q') ∧ Abreast q q' := by
  obtain ⟨rfl, written, e⟩ := iterate_ok turn
  obtain ⟨alike, noted⟩ := abreast.noted logDir blind
  rw [abreast.out, alike] at written
  have turn' : Soak.iterate runner (config.into logDir) index p' = _ :=
    iterate_of_written written
  rw [← alike] at turn'
  refine ⟨_, turn', ?_⟩
  rw [e]
  exact { noted with
    out := rfl
    tally := by rw [abreast.tally] }

/-- The pause keeps two soaks abreast. -/
lemma rested {left : Nat} (abreast : Abreast p p') :
    Abreast (rested config left p) (Soak.rested (config.into logDir) left p') := by
  cases calls : p.calls with
  | nil =>
    rw [rested_of_no_calls calls, rested_of_no_calls (abreast.calls ▸ calls)]
    exact abreast
  | cons c cs =>
    rw [rested_of_calls calls, rested_of_calls (abreast.calls ▸ calls)]
    exact { abreast with world := abreast.world.pause .. }

/-- Iterations that are told beside others are told there as well. -/
lemma iterations {left i : Nat} (blind : runner.Blind) (abreast : Abreast p p')
    (told : iterations runner config left i p = (.ok (), q)) :
    ∃ q', Soak.iterations runner (config.into logDir) left i p' = (.ok (), q') ∧
      Abreast q q' := by
  induction left generalizing i p p' with
  | zero =>
    cases told
    exact ⟨p', rfl, abreast⟩
  | succ left ih =>
    obtain ⟨a, r, turn, told⟩ := iterations_succ told
    obtain ⟨r', turn', abreast⟩ := abreast.iterate logDir blind turn
    obtain ⟨q', told', abreast⟩ := ih (abreast.rested logDir) told
    rw [iterations_of_ok turn']
    exact ⟨q', told', abreast⟩

/-- The end of a soak is told beside another one as well. -/
lemma finish {s : Summary} (abreast : Abreast p p')
    (finished : finish config p = (.ok s, q)) :
    ∃ q', Soak.finish (config.into logDir) p' = (.ok s, q') ∧ Abreast q q' := by
  obtain ⟨rfl, written, e⟩ := finish_ok finished
  have alike : p'.summary (config.into logDir) = p.summary config := by
    rw [Progress.summary, Progress.summary, abreast.tally]
    rfl
  rw [abreast.out, ← alike] at written
  refine ⟨_, alike ▸ finish_of_written written, ?_⟩
  rw [e]
  exact { abreast with
    world := ⟨abreast.world.clock, abreast.world.elapsed⟩
    out := rfl }

/-- A soak gives the same summary and text whatever is in the files, and wherever its own go. -/
lemma run {s : Summary} (blind : runner.Blind) (abreast : Abreast p p')
    (usable : (config.into logDir).Usable p'.world.files)
    (ran : run runner config p = (.ok s, q)) :
    ∃ q', Soak.run runner (config.into logDir) p' = (.ok s, q') ∧ Abreast q q' := by
  obtain ⟨command, r, told, finished⟩ := run_ok ran
  have begun : Abreast (begun runner config p) (begun runner (config.into logDir) p') :=
    { abreast with
      world := ⟨(abreast.world.prepare logDir).clock, (abreast.world.prepare logDir).elapsed⟩ }
  obtain ⟨r', told', abreast⟩ := begun.iterations logDir blind told
  have ran' : Soak.run runner (config.into logDir) p' = _ := run_of_told command usable told'
  rw [ran']
  exact abreast.finish logDir finished

end Abreast

end Beside

end SoakRig.Soak
