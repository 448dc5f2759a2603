import SoakRig.Proofs.Soak.Counts
import SoakRig.Proofs.Soak.Writer

/-!
# What a soak prints

The text of a soak is one block for each call of the runner, and the report. A block ends with a line
that tells of the call; `Line` reads such a line back. What is read off the lines agrees with the
counts of the report, whatever the outputs and the errors say.
-/

namespace SoakRig.Soak

/-! ## Reading lines -/

namespace Line

/-- The words of a line, without the line break at its end. -/
def words (line : List Char) : List (List Char) := Text.pieces ' ' line.dropLast

/-- The fields among some words, each a name and a value. What an error says is not read. -/
def fieldsOf : List (List Char) → List (List Char × List Char)
  | [] => []
  | word :: words =>
    match Text.splitFirst? ['='] word with
    | none => fieldsOf words
    | some (name, value) => if name = "error".toList then [] else (name, value) :: fieldsOf words

/-- The value of a field, if the line has it. -/
def field? (name : String) (line : List Char) : Option (List Char) :=
  (fieldsOf (words line)).lookup name.toList

/-- The line shows a status behind the number. -/
def shows (status : String) (line : List Char) : Bool := (words line)[1]? = some status.toList

/-- The line tells of a timeout, or shows an exit code other than zero. -/
def crashed (line : List Char) : Bool :=
  shows "TIMEOUT" line || (field? "exit" line).any (· ≠ "0".toList)

/-- A word without an equals sign is no field. -/
lemma fieldsOf_plain {word : List Char} (plain : '=' ∉ word) (words : List (List Char)) :
    fieldsOf (word :: words) = fieldsOf words := by
  have whole : Text.splitFirst? ['='] word = none :=
    Text.splitFirst?_of_not_infix fun inside => plain (inside.subset List.mem_cons_self)
  rw [fieldsOf, whole]

/-- A word with an equals sign is a field. -/
lemma fieldsOf_field {name : List Char} (plain : '=' ∉ name) (known : name ≠ "error".toList)
    (value : List Char) (words : List (List Char)) :
    fieldsOf ((name ++ '=' :: value) :: words) = (name, value) :: fieldsOf words := by
  rw [fieldsOf, Text.splitFirst?_of_not_mem plain]
  exact if_neg known

/-- Behind an error nothing is read. -/
lemma fieldsOf_error (text : List Char) (words : List (List Char)) :
    fieldsOf (("error".toList ++ '=' :: text) :: words) = [] := by
  rw [fieldsOf, Text.splitFirst?_of_not_mem (by decide)]
  exact if_pos rfl

end Line

/-! ## The lines of a soak -/

/-- A text that may be a word, a name or a value. -/
def Bare (text : List Char) : Prop := ' ' ∉ text ∧ '=' ∉ text ∧ '\n' ∉ text

/-- A character is missing from a text around a mark if it is missing from both sides. -/
lemma not_mem_around {c mark : Char} {x y : List Char} (other : c ≠ mark) (left : c ∉ x)
    (right : c ∉ y) : c ∉ x ++ mark :: y := by
  simp [other, left, right]

lemma bare_of_numerals {text : List Char} (numerals : ∀ c ∈ text, Decimal.IsNumeral c) :
    Bare text := by
  have other {c : Char} (h : ¬Decimal.IsNumeral c) : c ∉ text := fun mem => h (numerals c mem)
  unfold Decimal.IsNumeral at other
  exact ⟨other (by decide), other (by decide), other (by decide)⟩

lemma bare_fixed (places : Nat) (x : Binary64) : Bare (Decimal.fixed places x).toList :=
  bare_of_numerals fun _ => Decimal.isNumeral_of_mem_fixed

lemma bare_integer (n : Int) : Bare (Decimal.integer n) := by
  refine bare_of_numerals fun c mem => ?_
  obtain digit | rfl := Decimal.isDigit_of_mem_integer mem
  · exact .inl digit
  · exact .inr (by decide)

lemma bare_tag (index : UInt32) : Bare (indexTag index).toList := by
  have number : Bare (Decimal.padded 3 index.toNat) :=
    bare_of_numerals fun c mem => .inl (Decimal.isDigit_of_mem_padded mem)
  simpa [Bare, indexTag] using number

lemma bare_name (status : Status) : Bare status.name.toList := by
  unfold Bare
  cases status <;> decide

/-- The fields of the line that tells of an attempt. -/
def Attempt.fields : Attempt → List (List Char × List Char)
  | completed exitCode output duration => [
    ("exit".toList, Decimal.integer exitCode.toInt),
    ("elapsed".toList, (Decimal.fixed 2 duration.seconds).toList ++ ['s']),
    ("retriable".toList,
      (if (Outcome.classify exitCode output false).retriable then "Y" else "N").toList)]
  | timedOut => []
  | failed _ => [("exit".toList, "-1".toList)]

section Attempt

variable (timeout : Duration) (index : UInt32)

lemma toList_statusLine (a : Attempt) :
    (statusLine timeout index a).toList =
      (statusPieces timeout index a).flatMap String.toList := by
  simp [statusLine, List.flatMap]

lemma line_completed (exitCode : Int32) (output : String) (duration : Duration) :
    let outcome := Outcome.classify exitCode output false
    (statusLine timeout index (.completed exitCode output duration)).toList =
      (indexTag index).toList ++ ' ' :: (outcome.status.name.toList ++
        ' ' :: ("exit".toList ++ '=' :: Decimal.integer exitCode.toInt ++
        ' ' :: ("elapsed".toList ++ '=' :: ((Decimal.fixed 2 duration.seconds).toList ++ ['s']) ++
        ' ' :: ("retriable".toList ++
          '=' :: (if outcome.retriable then "Y" else "N").toList)))) ++ ['\n'] := by
  -- the numbers are left out of the simplification, which would compute them
  have spelled (tag name elapsed flag : String) (code : List Char) :
      [tag, " ", name, " exit=", String.ofList code, " elapsed=", elapsed, "s", " retriable=",
        flag, "\n"].flatMap String.toList =
      tag.toList ++ ' ' :: (name.toList ++ ' ' :: ("exit".toList ++ '=' :: code ++
        ' ' :: ("elapsed".toList ++ '=' :: (elapsed.toList ++ ['s']) ++
        ' ' :: ("retriable".toList ++ '=' :: flag.toList)))) ++ ['\n'] := by simp
  rw [toList_statusLine]
  exact spelled ..

lemma line_timedOut :
    (statusLine timeout index .timedOut).toList =
      (indexTag index).toList ++ ' ' :: ("TIMEOUT".toList ++ ' ' :: ("after".toList ++
        ' ' :: ((Decimal.fixed 1 timeout.seconds).toList ++ ['s']))) ++ ['\n'] := by
  have spelled (tag seconds : String) :
      [tag, " TIMEOUT after ", seconds, "s\n"].flatMap String.toList =
      tag.toList ++ ' ' :: ("TIMEOUT".toList ++ ' ' :: ("after".toList ++
        ' ' :: (seconds.toList ++ ['s']))) ++ ['\n'] := by simp
  rw [toList_statusLine]
  exact spelled ..

lemma line_failed (error : Error) :
    (statusLine timeout index (.failed error)).toList =
      (indexTag index).toList ++ ' ' :: ("FAIL".toList ++ ' ' :: ("exit".toList ++
        '=' :: "-1".toList ++ ' ' :: ("error".toList ++ '=' :: error.message.toList))) ++
        ['\n'] := by
  have spelled (tag message : String) :
      [tag, " FAIL exit=-1 error=", message, "\n"].flatMap String.toList =
      tag.toList ++ ' ' :: ("FAIL".toList ++ ' ' :: ("exit".toList ++ '=' :: "-1".toList ++
        ' ' :: ("error".toList ++ '=' :: message.toList))) ++ ['\n'] := by simp
  rw [toList_statusLine]
  exact spelled ..

lemma words_completed (exitCode : Int32) (output : String) (duration : Duration) :
    let outcome := Outcome.classify exitCode output false
    Line.words (statusLine timeout index (.completed exitCode output duration)).toList =
      [(indexTag index).toList, outcome.status.name.toList,
        "exit".toList ++ '=' :: Decimal.integer exitCode.toInt,
        "elapsed".toList ++ '=' :: ((Decimal.fixed 2 duration.seconds).toList ++ ['s']),
        "retriable".toList ++ '=' :: (if outcome.retriable then "Y" else "N").toList] := by
  intro outcome
  have equals : ' ' ≠ '=' := by decide
  have tag := (bare_tag index).1
  have name := (bare_name outcome.status).1
  have exit := not_mem_around equals (x := "exit".toList) (by decide)
    (bare_integer exitCode.toInt).1
  have elapsed := not_mem_around equals (x := "elapsed".toList) (by decide)
    (List.not_mem_append (bare_fixed 2 duration.seconds).1 (by decide : ' ' ∉ ['s']))
  rw [Line.words, line_completed, List.dropLast_concat, Text.pieces_cut tag, Text.pieces_cut name,
    Text.pieces_cut exit, Text.pieces_cut elapsed, Text.pieces_of_plain]
  cases outcome.retriable <;> decide

lemma words_timedOut :
    Line.words (statusLine timeout index .timedOut).toList =
      [(indexTag index).toList, "TIMEOUT".toList, "after".toList,
        (Decimal.fixed 1 timeout.seconds).toList ++ ['s']] := by
  have seconds := (bare_fixed 1 timeout.seconds).1
  rw [Line.words, line_timedOut, List.dropLast_concat, Text.pieces_cut (bare_tag index).1,
    Text.pieces_cut (by decide), Text.pieces_cut (by decide),
    Text.pieces_of_plain (by simp [seconds])]

lemma words_failed (error : Error) :
    ∃ text words, Line.words (statusLine timeout index (.failed error)).toList =
      (indexTag index).toList :: "FAIL".toList :: ("exit".toList ++ '=' :: "-1".toList) ::
        ("error".toList ++ '=' :: text) :: words := by
  have name : ' ' ∉ "error".toList ++ ['='] := by decide
  -- the message may hold blanks itself, so only where the fourth word begins is known
  obtain ⟨piece, words, -, cut⟩ := Text.pieces_front name error.message.toList
  refine ⟨piece, words, ?_⟩
  rw [Line.words, line_failed, List.dropLast_concat, Text.pieces_cut (bare_tag index).1,
    Text.pieces_cut (by decide), Text.pieces_cut (by decide)]
  simpa using cut

variable (a : Attempt)

/-- What is read from a line are the fields of its attempt, whatever the error says. -/
lemma fields_statusLine :
    Line.fieldsOf (Line.words (statusLine timeout index a).toList) = a.fields := by
  have tag := (bare_tag index).2.1
  cases a with
  | completed exitCode output duration =>
    have name := (bare_name (Outcome.classify exitCode output false).status).2.1
    rw [words_completed, Line.fieldsOf_plain tag, Line.fieldsOf_plain name,
      Line.fieldsOf_field (by decide) (by decide), Line.fieldsOf_field (by decide) (by decide),
      Line.fieldsOf_field (by decide) (by decide)]
    rfl
  | timedOut =>
    have seconds := List.not_mem_append (bare_fixed 1 timeout.seconds).2.1
      (by decide : '=' ∉ ['s'])
    rw [words_timedOut, Line.fieldsOf_plain tag, Line.fieldsOf_plain (by decide),
      Line.fieldsOf_plain (by decide), Line.fieldsOf_plain seconds]
    rfl
  | failed error =>
    obtain ⟨text, words, cut⟩ := words_failed timeout index error
    rw [cut, Line.fieldsOf_plain tag, Line.fieldsOf_plain (by decide),
      Line.fieldsOf_field (by decide) (by decide), Line.fieldsOf_error]
    rfl

/-- A line shows the status that the run was judged to have. -/
lemma shows_statusLine (status : Status) :
    Line.shows status.name (statusLine timeout index a).toList =
      decide ((Iteration.ofAttempt index a).outcome.status = status) := by
  have same : (Line.words (statusLine timeout index a).toList)[1]? =
      some (Iteration.ofAttempt index a).outcome.status.name.toList := by
    cases a with
    | completed =>
      rw [words_completed]
      rfl
    | timedOut =>
      rw [words_timedOut]
      rfl
    | failed error =>
      obtain ⟨text, words, cut⟩ := words_failed timeout index error
      rw [cut]
      rfl
  rw [Line.shows, same]
  -- no two statuses have the same name
  cases (Iteration.ofAttempt index a).outcome.status <;> cases status <;> decide

/-- A line says that the client retried exactly if its output does. -/
lemma retriable_statusLine :
    decide (Line.field? "retriable" (statusLine timeout index a).toList = some "Y".toList) =
      a.printed Outcome.retriableMarker := by
  rw [← retriable_ofAttempt index, Line.field?, fields_statusLine]
  cases a with
  | completed exitCode output duration =>
    have shown : (Attempt.completed exitCode output duration).fields.lookup "retriable".toList =
        some (if (Outcome.classify exitCode output false).retriable then "Y" else "N").toList := rfl
    rw [shown]
    simp only [Iteration.ofAttempt]
    cases (Outcome.classify exitCode output false).retriable <;> rfl
  | timedOut => rfl
  | failed => rfl

/-- A line says how long a run took exactly if it ended by itself. -/
lemma elapsed_statusLine :
    (Line.field? "elapsed" (statusLine timeout index a).toList).isSome = a.ended := by
  rw [Line.field?, fields_statusLine]
  cases a <;> rfl

/-- A line tells of a crash exactly if the run was failing. -/
lemma crashed_statusLine :
    Line.crashed (statusLine timeout index a).toList = a.failing := by
  rw [Line.crashed, show "TIMEOUT" = Status.timeout.name from rfl, shows_statusLine, Line.field?,
    fields_statusLine]
  cases a with
  | completed exitCode output duration =>
    have ended : (Iteration.ofAttempt index (.completed exitCode output duration)).outcome.status ≠
        .timeout := by
      unfold Iteration.ofAttempt Outcome.classify Outcome.statusOf
      dsimp only
      split_ifs <;> simp_all
    have zero : Decimal.integer exitCode.toInt = ['0'] ↔ exitCode = 0 := by
      rw [← Int32.toInt_inj]
      exact Decimal.integer_eq_zero_iff
    have shown : (Attempt.completed exitCode output duration).fields.lookup "exit".toList =
        some (Decimal.integer exitCode.toInt) := rfl
    rw [shown]
    simp [ended, zero, Attempt.failing]
  | timedOut => rfl
  | failed => rfl

end Attempt

/-- The output, if the run ended by itself. -/
def Attempt.output? : Attempt → Option String
  | completed _ output _ => some output
  | timedOut => none
  | failed _ => none

/--
The text on an attempt is the output, if it is to be repeated, and a line that begins with the number
of the attempt. Only the message of an error can break the line.
-/
structure Block (verbose : Bool) (number : Nat) (a : Attempt) (text line : String) : Prop where
  echoed : ∀ output, verbose → a.output? = some output → text = output ++ "\n" ++ line
  silent : verbose = false ∨ a.output? = none → text = line
  number : ("[" ++ String.ofList (Decimal.padded 3 number) ++ "] ").toList <+: line.toList
  ended : line.toList.getLast? = some '\n'
  whole : '\n' ∈ line.toList.dropLast → ∃ e : Error, a = .failed e ∧ '\n' ∈ e.message.toList

/-- A line goes on behind the number, and only the message of an error can break it. -/
lemma exists_told (timeout : Duration) (index : UInt32) (a : Attempt) :
    ∃ told,
      (statusLine timeout index a).toList = (indexTag index).toList ++ ' ' :: told ++ ['\n'] ∧
        ('\n' ∈ told → ∃ e : Error, a = .failed e ∧ '\n' ∈ e.message.toList) := by
  have blank : '\n' ≠ ' ' := by decide
  have equals : '\n' ≠ '=' := by decide
  cases a with
  | completed exitCode output duration =>
    refine ⟨_, line_completed timeout index exitCode output duration, fun broken => ?_⟩
    have name := (bare_name (Outcome.classify exitCode output false).status).2.2
    have exit := not_mem_around equals (x := "exit".toList) (by decide)
      (bare_integer exitCode.toInt).2.2
    have elapsed := not_mem_around equals (x := "elapsed".toList) (by decide)
      (List.not_mem_append (bare_fixed 2 duration.seconds).2.2 (by decide : '\n' ∉ ['s']))
    have retriable (retriable : Bool) := not_mem_around equals (x := "retriable".toList) (by decide)
      (show '\n' ∉ (if retriable then "Y" else "N").toList by cases retriable <;> decide)
    exact absurd broken (not_mem_around blank name (not_mem_around blank exit
      (not_mem_around blank elapsed (retriable _))))
  | timedOut =>
    refine ⟨_, line_timedOut timeout index, fun broken => ?_⟩
    have seconds := List.not_mem_append (bare_fixed 1 timeout.seconds).2.2
      (by decide : '\n' ∉ ['s'])
    exact absurd broken (not_mem_around blank (by decide) (not_mem_around blank (by decide) seconds))
  | failed error =>
    refine ⟨_, line_failed timeout index error, fun broken => ⟨error, rfl, ?_⟩⟩
    by_contra message
    have said := not_mem_around equals (x := "error".toList) (by decide) message
    exact not_mem_around blank (by decide) (not_mem_around blank (by decide) said) broken

/-- The text on an attempt is a block. -/
lemma block_shape (verbose : Bool) (timeout : Duration) (index : UInt32) (a : Attempt) :
    Block verbose index.toNat a (block verbose timeout index a) (statusLine timeout index a) where
  echoed := by
    intro output loud told
    cases a with
    | completed =>
      cases told
      simp [block, Soak.echoed, echoPieces, loud]
    | timedOut => cases told
    | failed => cases told
  silent := by
    rintro (rfl | none)
    · cases a <;> simp [block, Soak.echoed, echoPieces]
    · cases a with
      | completed => cases none
      | timedOut => simp [block, Soak.echoed, echoPieces]
      | failed => simp [block, Soak.echoed, echoPieces]
  number := by
    obtain ⟨told, line_at, -⟩ := exists_told timeout index a
    rw [line_at]
    exact ⟨told ++ ['\n'], by simp [indexTag]⟩
  ended := by
    obtain ⟨told, line_at, -⟩ := exists_told timeout index a
    rw [line_at, List.getLast?_concat]
  whole := by
    obtain ⟨told, line_at, whole⟩ := exists_told timeout index a
    have tag := (bare_tag index).2.2
    rw [line_at, List.dropLast_concat]
    intro broken
    exact whole (by simpa [tag] using broken)

/-- The lines that tell of some attempts, which are numbered from one. -/
def statusLines (config : Config) (attempts : List Attempt) : List (List Char) :=
  (attempts.zipIdx 1).map fun (a, i) => (statusLine config.timeout (UInt32.ofNat i) a).toList

/-- What is read off each line for its attempt is counted for all attempts. -/
lemma countP_statusLines (config : Config) {shown : List Char → Bool} {kind : Attempt → Bool}
    (same : ∀ index a, shown (statusLine config.timeout index a).toList = kind a)
    (attempts : List Attempt) :
    (statusLines config attempts).countP shown = attempts.countP kind := by
  have kinds : shown ∘ (fun (a, i) => (statusLine config.timeout (UInt32.ofNat i) a).toList) =
      kind ∘ Prod.fst := by
    funext ⟨a, i⟩
    exact same _ a
  rw [statusLines, List.countP_map, kinds, ← List.countP_map, List.zipIdx_map_fst]

/-- The counts of a summary are what some lines show. -/
structure Summary.Agrees (s : Summary) (lines : List (List Char)) : Prop where
  iterations : s.iterations.toNat = lines.length
  successes : s.successes.toNat = lines.countP (Line.shows "OK")
  rateLimits : s.rateLimits.toNat = lines.countP (Line.shows "RATE_LIMIT")
  retriableSeen : s.retriableSeen.toNat =
    lines.countP fun line => Line.field? "retriable" line = some "Y".toList
  samples : s.samples.toNat = lines.countP fun line => (Line.field? "elapsed" line).isSome
  crashes : s.crashes.toNat = lines.countP Line.crashed

/-- A summary that tells of some attempts agrees with the lines that tell of them. -/
lemma Summary.Tells.agrees {s : Summary} {config : Config} {attempts : List Attempt}
    (tells : s.Tells config attempts) : s.Agrees (statusLines config attempts) where
  iterations := by rw [tells.calls, statusLines, List.length_map, List.length_zipIdx]
  successes := by
    rw [tells.successes, countP_statusLines config fun index a => ?_]
    rw [← success_ofAttempt index]
    exact shows_statusLine config.timeout index a .ok
  rateLimits := by
    rw [tells.rateLimits, countP_statusLines config fun index a => ?_]
    rw [← rateLimit_ofAttempt index]
    exact shows_statusLine config.timeout index a .rateLimit
  retriableSeen := by
    rw [tells.retriableSeen, countP_statusLines config (retriable_statusLine config.timeout)]
  samples := by
    rw [tells.samples, countP_statusLines config (elapsed_statusLine config.timeout)]
  crashes := by
    rw [tells.crashes, countP_statusLines config (crashed_statusLine config.timeout)]

/--
A soak that returns a summary has written one block for each call of the runner, in order, and then
the report. A block is made from the number of the call, what became of it, the timeout, and whether
outputs are repeated; and the counts of the report are what the lines show.
-/
theorem run_prints {σ : Type} {runner : Runner σ} {config : Config} {state : σ} {world : World}
    {out : Sink} {s : Summary} {q : Progress σ}
    (ran : run runner config (.start state world out) = (.ok s, q)) :
    q.attempts.length = config.iterations.toNat ∧
      q.out.bytes = out.bytes ++ story config q.attempts ++ Text.utf8 s.render.toList ∧
      (∀ i a, (a, i) ∈ q.attempts.zipIdx 1 →
        Block config.verbose i a (block config.verbose config.timeout (UInt32.ofNat i) a)
          (statusLine config.timeout (UInt32.ofNat i) a)) ∧
      s.Agrees (statusLines config q.attempts) := by
  obtain ⟨-, r, told, finished⟩ := run_ok ran
  obtain ⟨calls, counted⟩ := counted_of_iterations rfl rfl told
  obtain ⟨rfl, written, -⟩ := finish_ok finished
  rw [attempts_of_finish finished]
  refine ⟨calls, ?_, fun i a mem => ?_, (tells_ofTally counted calls).agrees⟩
  · rw [Sink.bytes_of_write written, bytes_grow_of_iterations rfl told]
    rfl
  · -- the number of a call fits
    have fits : i < 2 ^ 32 := by
      have := List.snd_lt_of_mem_zipIdx mem
      have := config.iterations.toNat_lt
      omega
    have number : (UInt32.ofNat i).toNat = i := UInt32.toNat_ofNat_of_lt fits
    have shape := block_shape config.verbose config.timeout (UInt32.ofNat i) a
    rwa [number] at shape

/-- What the mixed soak prints. -/
theorem run_prints_mixed :
    ∃ s q, mixedSoak .unbounded = (.ok s, q) ∧ q.attempts.length = 6 ∧
      q.out.bytes = story mixedConfig q.attempts ++ Text.utf8 s.render.toList ∧
      s.Agrees (statusLines mixedConfig q.attempts) ∧
      statusLines mixedConfig q.attempts =
        ["[001] OK exit=0 elapsed=0.10s retriable=Y\n",
          "[002] RATE_LIMIT exit=1 elapsed=0.02s retriable=Y\n", "[003] TIMEOUT after 30.0s\n",
          "[004] FAIL exit=-1 error=Failed to start client: No such file or directory (os error 2)\n",
          "[005] RATE_LIMIT exit=0 elapsed=0.01s retriable=N\n",
          "[006] FAIL exit=3 elapsed=0.00s retriable=N\n"].map String.toList := by
  obtain ⟨q, ran, -⟩ := run_unbounded (scripted 0) mixedConfig mixedScript (.still .fresh 0)
    (by decide) usable_mixed
  obtain ⟨length, bytes, -, agrees⟩ := run_prints ran
  refine ⟨_, q, ran, length, bytes, agrees, ?_⟩
  rw [attempts_scripted ran]
  decide +kernel

end SoakRig.Soak
