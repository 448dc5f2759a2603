import SoakRig.Program.Client
import SoakRig.Proofs.Soak.Counts
import SoakRig.Proofs.Soak.Writer

/-!
# The exit code of the soak client

What decides the exit code comes up in a fixed order: the log, the command, the log directory, the
writer, and at last what became of the runs. `Judged` has one field for each of them. The command is
looked at twice, by the program and by the soak, and both strip the same separator, so a soak that is
started has a command.
-/

namespace SoakRig

/-- A writer that takes so many bytes, or everything. -/
def Sink.limited (limit : Option (Nat × SystemError)) : Sink :=
  limit.elim .unbounded fun l => .bounded l.1 l.2

/-- The bytes keep to the limit, if there is one. -/
def Sink.Within (limit : Option (Nat × SystemError)) (bytes : List UInt8) : Prop :=
  ∀ l ∈ limit, bytes.length ≤ l.1

namespace Soak

variable {σ : Type} {runner : Runner σ} {config : Config} {state : σ} {world : World}
  {limit : Option (Nat × SystemError)}

lemma tells_of_returned {out : Sink} {s : Summary}
    (returned : (run runner config (.start state world out)).1 = .ok s) :
    s.Tells config (run runner config (.start state world out)).2.attempts := by
  generalize e : run runner config (.start state world out) = r at returned
  obtain ⟨_, q⟩ := r
  cases returned
  obtain ⟨-, r, told, finished⟩ := run_ok e
  obtain ⟨calls, counted⟩ := counted_of_iterations rfl rfl told
  rw [attempts_of_finish finished, (finish_ok finished).1]
  exact tells_ofTally counted calls

/-- The run ended by itself with exit code zero. -/
def Attempt.Passed (a : Attempt) : Prop := ∃ output duration, a = .completed 0 output duration

lemma Attempt.passed_of_not_failing {a : Attempt} (fine : a.failing = false) : a.Passed := by
  cases a with
  | completed exitCode output duration =>
    have zero : exitCode = 0 := by simpa [failing] using fine
    exact ⟨output, duration, by rw [zero]⟩
  | timedOut => cases fine
  | failed e => cases fine

section Tells

variable {s : Summary} {attempts : List Attempt} (tells : s.Tells config attempts)

include tells

lemma length_of_tells : attempts.length = config.iterations.toNat := by
  rw [← tells.calls, tells.iterations]

/-- A summary with exit code zero tells of runs that have all passed. -/
lemma passed_of_tells (zero : s.exitCode = 0) : ∀ a ∈ attempts, a.Passed := by
  intro a mem
  apply Attempt.passed_of_not_failing
  by_contra failing
  rw [tells.exitCode, if_pos (List.any_eq_true.2 ⟨a, mem, by simpa using failing⟩)] at zero
  cases zero

end Tells

/-- A directory that cannot be made ends the soak with the refusal. -/
lemma result_of_refused {out : Sink} {dir : Path} {e : SystemError} (command : config.command ≠ [])
    (found : config.logDir = some dir) (refused : (world.files.makeDirectories dir).1 = .error e) :
    (run runner config (.start state world out)).1 = .error (.io e) := by
  have ran : ∃ files, run runner config (.start state world out) = (.error (.io e), _) :=
    run_of_refused command found refused
  obtain ⟨files, ran⟩ := ran
  rw [ran]

/-- A writer with room for the whole text makes no difference to what is returned. -/
lemma result_of_within (command : config.command ≠ []) (usable : config.Usable world.files)
    (within : Sink.Within limit (run runner config (.start state world .unbounded)).2.out.bytes) :
    (run runner config (.start state world (.limited limit))).1 =
      (run runner config (.start state world .unbounded)).1 := by
  cases limit with
  | none => rfl
  | some l =>
    obtain ⟨k, -, -, -, cut⟩ :=
      exists_cutAfter runner config state world l.1 l.2 command usable
    have fits := within l rfl
    exact cut.result.trans (if_pos fits)

/-- A writer without room for the whole text ends the soak with its refusal. -/
lemma result_of_beyond (command : config.command ≠ []) (usable : config.Usable world.files)
    (beyond :
      ¬Sink.Within limit (run runner config (.start state world .unbounded)).2.out.bytes) :
    ∃ e, (run runner config (.start state world (.limited limit))).1 = .error (.io e) := by
  cases limit with
  | none => exact absurd (fun l unlimited => by cases unlimited) beyond
  | some l =>
    obtain ⟨k, -, -, -, cut⟩ :=
      exists_cutAfter runner config state world l.1 l.2 command usable
    refine ⟨l.2, cut.result.trans (if_neg fun fits => beyond fun l' same => ?_)⟩
    cases same
    exact fits

/-- With a command a soak returns a summary, or an error of the files or the writer. -/
lemma result_of_command (command : config.command ≠ []) :
    (∃ s, (run runner config (.start state world (.limited limit))).1 = .ok s) ∨
      ∃ e, (run runner config (.start state world (.limited limit))).1 = .error (.io e) := by
  by_cases usable : config.Usable world.files
  · by_cases within :
      Sink.Within limit (run runner config (.start state world .unbounded)).2.out.bytes
    · obtain ⟨last, ran, -⟩ := run_unbounded runner config state world command usable
      exact .inl ⟨_, (result_of_within command usable within).trans (congrArg Prod.fst ran)⟩
    · exact .inr (result_of_beyond command usable within)
  · obtain ⟨dir, found, unmade⟩ : ∃ dir, config.logDir = some dir ∧
        (world.files.makeDirectories dir).1 ≠ .ok () := by
      simpa [Config.Usable] using usable
    cases made : (world.files.makeDirectories dir).1 with
    | ok u => exact absurd made unmade
    | error e =>
      exact .inr ⟨e, result_of_refused command found made⟩

end Soak

namespace Program.Client

open CommandLine.Client (Draft)

variable {σ : Type} {runnerOf : Target → Soak.Runner σ} {state : σ} {build : Build}
  {env : Environment} {args : List (List UInt8)} {draft : Draft}
  {limit : Option (Nat × SystemError)} {world : World}

/-- The log of the program, or why there is none. -/
def started (env : Environment) (world : World) : Except Log.OutputError Log.Output × FileTree :=
  Log.Output.start env (settings env) world.files

/-- The world in which the log has been started. -/
def opened (env : Environment) (world : World) : World :=
  reportAll (Log.Output.opening (settings env)) { world with files := (started env world).2 }

/-- The world in which the soak that was asked for starts. -/
def ready (env : Environment) (draft : Draft) (world : World) : World :=
  (opened env world).report (configRecord draft.config)

/-- The soak that was asked for. -/
def soaked (runnerOf : Target → Soak.Runner σ) (state : σ) (env : Environment) (draft : Draft)
    (world : World) (out : Sink) : Except Soak.Error Soak.Summary × Soak.Progress σ :=
  Soak.run (runnerOf draft.config.target) draft.config (.start state (ready env draft world) out)

lemma files_reportAll (records : List Log.Record) (world : World) :
    (reportAll records world).files = world.files := by
  induction records generalizing world with
  | nil => rfl
  | cons r records ih => exact ih (world.report r)

/-- The files in which the soak starts are those that the start of the log left. -/
lemma files_ready (draft : Draft) : (ready env draft world).files = (started env world).2 :=
  files_reportAll _ _

/-- The appender of the log file panics: it cannot open the file, or takes no such name. -/
def Panics (e : Log.OutputError) : Prop := e = .nameNotText ∨ ∃ cause, e = .file cause

/-- The log is there and so is a command, so that there is something to run. -/
def Starts (env : Environment) (draft : Draft) (world : World) : Prop :=
  (∃ log, (started env world).1 = .ok log) ∧ Soak.stripSeparator draft.command ≠ []

/-- The soak looks at the same command as the program: both take the separator off once. -/
lemma command_config : draft.config.command = Soak.stripSeparator draft.command := rfl

/-- A soak does not end for lack of a command that the program has seen. -/
lemma result_soaked (command : Soak.stripSeparator draft.command ≠ []) :
    (∃ s, (soaked runnerOf state env draft world (.limited limit)).1 = .ok s) ∨
      ∃ e, (soaked runnerOf state env draft world (.limited limit)).1 = .error (.io e) := by
  rw [← command_config] at command
  exact Soak.result_of_command command

lemma tells_soaked {out : Sink} {s : Soak.Summary}
    (returned : (soaked runnerOf state env draft world out).1 = .ok s) :
    s.Tells draft.config (soaked runnerOf state env draft world out).2.attempts :=
  Soak.tells_of_returned returned

lemma panicCode_ne_zero (build : Build) : build.panicCode ≠ 0 := by
  unfold Build.panicCode
  split <;> decide

/-- Without a log the program does not pass. -/
lemma exitCode_ofOutputError_ne_zero (build : Build) (env : Environment) (files : FileTree)
    (e : Log.OutputError) : (Ending.ofOutputError build env files e).exitCode ≠ 0 := by
  unfold Ending.ofOutputError
  split
  · exact panicCode_ne_zero build
  · exact (by decide : (1 : Int32) ≠ 0)

section Ways

variable (read : CommandLine.Client.read env args = .ok draft) {out : Sink}

include read

lemma runWith_of_unlogged {e : Log.OutputError} (unlogged : (started env world).1 = .error e) :
    runWith runnerOf state build env args out world =
      .ofOutputError build env (started env world).2 e := by
  unfold started at *
  unfold runWith
  generalize Log.Output.start env (settings env) world.files = r at *
  obtain ⟨_, files⟩ := r
  cases unlogged
  simp only [read]

lemma runWith_of_logged {log : Log.Output} (logged : (started env world).1 = .ok log) :
    runWith runnerOf state build env args out world =
      serve runnerOf state log draft out (opened env world) := by
  unfold opened started at *
  unfold runWith
  generalize Log.Output.start env (settings env) world.files = r at *
  obtain ⟨_, files⟩ := r
  cases logged
  simp only [read]

/-- Without a command nothing is run. -/
lemma runWith_of_no_command {log : Log.Output} (logged : (started env world).1 = .ok log)
    (commandless : Soak.stripSeparator draft.command = []) :
    runWith runnerOf state build env args out world = .ofRun log (opened env world) 2 out.bytes
      ["ERROR: " ++ Soak.Error.emptyCommand.message] := by
  rw [runWith_of_logged read logged, serve, if_pos commandless]
  rfl

/-- With a command the program is the soak. -/
lemma runWith_of_starts (starts : Starts env draft world) : ∃ log,
    runWith runnerOf state build env args out world =
      soak runnerOf state log draft.config out (opened env world) := by
  obtain ⟨⟨log, logged⟩, command⟩ := starts
  exact ⟨log, by rw [runWith_of_logged read logged, serve, if_neg command]⟩

/-- A summary gives the program its exit code. -/
lemma exitCode_of_ok (starts : Starts env draft world) {s : Soak.Summary}
    (returned : (soaked runnerOf state env draft world out).1 = .ok s) :
    (runWith runnerOf state build env args out world).exitCode = s.exitCode := by
  obtain ⟨log, same⟩ := runWith_of_starts read starts
  unfold soaked ready at returned
  rw [same]
  simp only [soak, returned]
  rfl

/-- Without a summary the exit code is one. -/
lemma exitCode_of_error (starts : Starts env draft world) {e : Soak.Error}
    (returned : (soaked runnerOf state env draft world out).1 = .error e) :
    (runWith runnerOf state build env args out world).exitCode = 1 := by
  obtain ⟨log, same⟩ := runWith_of_starts read starts
  unfold soaked ready at returned
  rw [same]
  simp only [soak, returned]
  rfl

/-- An exit code of zero is that of a soak. -/
lemma starts_of_passed (passes : (runWith runnerOf state build env args out world).exitCode = 0) :
    Starts env draft world := by
  cases begun : (started env world).1 with
  | error e =>
    rw [runWith_of_unlogged read begun] at passes
    exact absurd passes (exitCode_ofOutputError_ne_zero build env _ e)
  | ok log =>
    refine ⟨⟨log, begun⟩, fun commandless => ?_⟩
    rw [runWith_of_no_command read begun commandless] at passes
    cases passes

end Ways

/-- The exit code says how far the program came, and then what became of the runs. -/
structure Judged (runnerOf : Target → Soak.Runner σ) (state : σ) (build : Build)
    (env : Environment) (draft : Draft) (limit : Option (Nat × SystemError)) (world : World)
    (ending : Ending) : Prop where
  unlogged : ∀ e, (started env world).1 = .error e → ¬Panics e → ending.exitCode = 1
  /-- There is a place for the log file, but the appender panics when it opens the file. -/
  unopened : ∀ e, (started env world).1 = .error e → Panics e →
    ending.exitCode = if build.unwinds then 101 else -6
  /-- No runner is asked, and nothing is written. -/
  commandless : ∀ log, (started env world).1 = .ok log →
    Soak.stripSeparator draft.command = [] →
      ending = .ofRun log (opened env world) 2 []
        ["ERROR: " ++ Soak.Error.emptyCommand.message]
  unplaced : Starts env draft world → ∀ dir e, draft.logDir = some dir →
    ((started env world).2.makeDirectories dir).1 = .error e → ending.exitCode = 1
  unwritten : Starts env draft world → draft.config.Usable (started env world).2 →
    ¬Sink.Within limit (soaked runnerOf state env draft world .unbounded).2.out.bytes →
      ending.exitCode = 1
  finished : Starts env draft world → draft.config.Usable (started env world).2 →
    Sink.Within limit (soaked runnerOf state env draft world .unbounded).2.out.bytes →
      let attempts := (soaked runnerOf state env draft world (.limited limit)).2.attempts
      attempts.length = draft.config.iterations.toNat ∧
        ending.exitCode = if attempts.any Soak.Attempt.failing then 2 else 0
  passed : ending.exitCode = 0 →
    let attempts := (soaked runnerOf state env draft world (.limited limit)).2.attempts
    Starts env draft world ∧ attempts.length = draft.config.iterations.toNat ∧
      ∀ a ∈ attempts, a.Passed
  commanded : Soak.stripSeparator draft.command ≠ [] →
    (soaked runnerOf state env draft world (.limited limit)).1 ≠ .error .emptyCommand

/--
For every command line that is read, however the program is built, whatever the runners do and however
much the writer takes, the exit code is decided by the log, the command, the log directory, the writer
and the runs, in this order.
-/
theorem runWith_judged (runnerOf : Target → Soak.Runner σ) (state : σ) (build : Build)
    (env : Environment) (args : List (List UInt8)) (draft : Draft)
    (limit : Option (Nat × SystemError)) (world : World)
    (read : CommandLine.Client.read env args = .ok draft) :
    Judged runnerOf state build env draft limit world
      (runWith runnerOf state build env args (.limited limit) world) where
  unlogged e failed calm := by
    rw [runWith_of_unlogged read failed]
    cases e with
    | noFileName path => rfl
    | directory cause => rfl
    | nameNotText => exact absurd (.inl rfl) calm
    | file cause => exact absurd (.inr ⟨cause, rfl⟩) calm
  unopened e failed panics := by
    rw [runWith_of_unlogged read failed]
    obtain rfl | ⟨cause, rfl⟩ := panics
    · rfl
    · rfl
  commandless log logged commandless := by
    rw [runWith_of_no_command read logged commandless]
    cases limit <;> rfl
  unplaced starts dir e found refused := by
    rw [← files_ready draft] at refused
    have placed : draft.config.logDir = some dir := found
    exact exitCode_of_error read starts (Soak.result_of_refused starts.2 placed refused)
  unwritten starts usable beyond := by
    rw [← files_ready draft] at usable
    obtain ⟨e, refused⟩ := Soak.result_of_beyond starts.2 usable beyond
    exact exitCode_of_error read starts refused
  finished starts usable within := by
    rw [← files_ready draft] at usable
    obtain ⟨last, full, -⟩ := Soak.run_unbounded _ _ state _ starts.2 usable
    have same := Soak.result_of_within starts.2 usable within
    rw [full] at same
    have tells := tells_soaked same
    rw [exitCode_of_ok read starts same]
    exact ⟨Soak.length_of_tells tells, tells.exitCode⟩
  passed passes := by
    have starts := starts_of_passed read passes
    rcases result_soaked starts.2 with ⟨s, returned⟩ | ⟨e, refused⟩
    · rw [exitCode_of_ok read starts returned] at passes
      have tells := tells_soaked returned
      exact ⟨starts, Soak.length_of_tells tells, Soak.passed_of_tells tells passes⟩
    · rw [exitCode_of_error read starts refused] at passes
      cases passes
  commanded command := by
    intro empty
    rcases result_soaked command with ⟨s, returned⟩ | ⟨e, refused⟩
    · cases returned.symm.trans empty
    · cases refused.symm.trans empty

/-- A build whose panics unwind the stack, or abort the program. -/
def plainBuild (unwinds : Bool) : Build := ⟨unwinds, "appender", 1, []⟩

/--
A soak of which the second run takes too long, with a writer that takes everything and with one that
runs full in the first line.
-/
theorem runWith_judged_mixed :
    let words := ["--exec=client", "--iterations=2", "--", "--", "balances"]
    let args := words.map fun word => Text.utf8 word.toList
    let draft : Draft :=
      ⟨none, none, some "client", some 2, none, none, none, false, ["--", "balances"]⟩
    let script : Soak.Script := ⟨[.completed 0 "" .zero], .timedOut⟩
    let world : World := .still .fresh 0
    let ending (limit : Option (Nat × SystemError)) : Ending :=
      runWith (fun _ => Soak.scripted 0) script (plainBuild false) .empty args (.limited limit) world
    CommandLine.Client.read .empty args = .ok draft ∧
      Judged (fun _ => Soak.scripted 0) script (plainBuild false) .empty draft none world
        (ending none) ∧
      (ending none).exitCode = 2 ∧ (ending (some (10, .other "sink full"))).exitCode = 1 := by
  intro words args draft script world ending
  have read : CommandLine.Client.read .empty args = .ok draft := by with_unfolding_all rfl
  have judged (limit : Option (Nat × SystemError)) :
      Judged (fun _ => Soak.scripted 0) script (plainBuild false) .empty draft limit world
        (ending limit) :=
    runWith_judged (fun _ => Soak.scripted 0) script (plainBuild false) .empty args draft limit
      world read
  have starts : Starts .empty draft world := ⟨⟨_, rfl⟩, by decide⟩
  have usable : draft.config.Usable (started .empty world).2 := by
    intro dir found
    cases found
  refine ⟨read, judged none, ?_, ?_⟩
  · have within : Sink.Within none
        (soaked (fun _ => Soak.scripted 0) script .empty draft world .unbounded).2.out.bytes := by
      intro l unlimited
      cases unlimited
    rw [((judged none).finished starts usable within).2]
    decide +kernel
  · apply (judged _).unwritten starts usable
    intro within
    have long : ¬(soaked (fun _ => Soak.scripted 0) script .empty draft world
        .unbounded).2.out.bytes.length ≤ 10 := by
      decide +kernel
    exact long (within _ rfl)

/-- A log file in whose place a directory stands ends the program with an exit code of its own, or
with a signal. -/
theorem runWith_unopened :
    let env : Environment := { bindings := [("FAULTLINE_LOG_FILE", Text.utf8 "d".toList)] }
    let words := ["--exec", "echo", "--iterations", "1", "--", "x"]
    let args := words.map fun word => Text.utf8 word.toList
    let world : World :=
      .still (FileTree.fresh.put (FileTree.place ["tmp", "scratch", "d"]) .directory) 0
    let ending (unwinds : Bool) : Ending := run (plainBuild unwinds) env args .unbounded world
    (∃ draft, CommandLine.Client.read env args = .ok draft) ∧
      (∃ e, (started env world).1 = .error e) ∧
      (∀ unwinds, (ending unwinds).exitCode ≠ 1) ∧
      (ending true).exitCode = 101 ∧ (ending false).exitCode = -6 := by
  intro env words args world ending
  have read : CommandLine.Client.read env args =
      .ok ⟨none, none, some "echo", some 1, none, none, none, false, ["x"]⟩ := by
    with_unfolding_all rfl
  have placed : (settings env).file = some (.ofText "d") := by decide +kernel
  have made : (Log.Output.makeFile "d" world.files).1 = .error (.file .isADirectory) := by
    decide +kernel
  have failed : (started env world).1 = .error (.file .isADirectory) := by
    simp only [started, Log.Output.start, placed]
    generalize Log.Output.makeFile "d" world.files = r at made ⊢
    obtain ⟨_, files⟩ := r
    cases made
    rfl
  have code (unwinds : Bool) : (ending unwinds).exitCode = (plainBuild unwinds).panicCode := by
    rw [show ending unwinds = run (plainBuild unwinds) env args .unbounded world from rfl, run,
      runWith_of_unlogged read failed]
    rfl
  refine ⟨⟨_, read⟩, ⟨_, failed⟩, fun unwinds => ?_, code true, code false⟩
  rw [code]
  cases unwinds <;> decide

end Program.Client

end SoakRig
