import SoakRig.Proofs.Soak.Lines

/-!
# What a report tells

The command stands in a report as it was given, so it may hold line breaks and lines that look like
those of a report. Cut into lines and read from the end, a report can still be understood in one way
only: the lines behind the command are always as many, and none of them holds a line break of its
own.
-/

namespace SoakRig

namespace Text

/-- Lines with a line break behind each. -/
def unlines (lines : List (List Char)) : List Char := lines.flatMap (· ++ ['\n'])

/-- The pieces with the separator between them are the text. -/
lemma intercalate_pieces (separator : Char) (text : List Char) :
    List.intercalate [separator] (pieces separator text) = text := by
  induction text with
  | nil => rfl
  | cons c text ih =>
    obtain ⟨piece, rest, cut, -⟩ := pieces_front (List.not_mem_nil (a := separator)) text
    rw [pieces, cut]
    rw [cut] at ih
    split
    · next same =>
      subst same
      rw [List.intercalate_cons_cons, ih]
      rfl
    · cases rest <;> simpa using ih

/-- Texts with the same pieces are equal. -/
lemma eq_of_pieces_eq {separator : Char} {text text' : List Char}
    (same : pieces separator text = pieces separator text') : text = text' := by
  rw [← intercalate_pieces separator text, same, intercalate_pieces]

/-- Lines without line breaks of their own are cut where they end. -/
lemma pieces_unlines {lines : List (List Char)} (plain : ∀ line ∈ lines, '\n' ∉ line) :
    pieces '\n' (unlines lines) = lines ++ [[]] := by
  induction lines with
  | nil => rfl
  | cons line lines ih =>
    have first : '\n' ∉ line := plain line List.mem_cons_self
    have others : ∀ line ∈ lines, '\n' ∉ line := fun line mem => plain line (.tail _ mem)
    calc pieces '\n' (unlines (line :: lines))
        = pieces '\n' (line ++ '\n' :: unlines lines) := by simp [unlines]
      _ = line :: pieces '\n' (unlines lines) := pieces_cut first _
      _ = line :: lines ++ [[]] := by rw [ih others, List.cons_append]

/-- A text with a known number of lines behind it can be told from them, whatever it holds. -/
lemma append_unlines_inj {front front' : List Char} {lines lines' : List (List Char)}
    (plain : ∀ line ∈ lines, '\n' ∉ line) (plain' : ∀ line ∈ lines', '\n' ∉ line)
    (as_many : lines.length = lines'.length)
    (same : front ++ '\n' :: unlines lines = front' ++ '\n' :: unlines lines') :
    front = front' ∧ lines = lines' := by
  have cut := congrArg (pieces '\n') same
  rw [pieces_append, pieces_append, pieces_unlines plain, pieces_unlines plain'] at cut
  obtain ⟨fronts, ends⟩ := List.append_inj' cut (by simp [as_many])
  exact ⟨eq_of_pieces_eq fronts, List.append_cancel_right ends⟩

end Text

namespace Soak.Summary

/-- What a line with a count begins with. -/
def countLabel (name : String) : List Char := "  ".toList ++ name.toList ++ ": ".toList

/-- What a line with a time begins with. -/
def timeLabel (name : String) : List Char := "    ".toList ++ name.toList ++ ": ".toList

/-- What the lines behind the command begin with. -/
def labels : List (List Char) :=
  [countLabel "iterations", countLabel "successes", countLabel "rate_limits",
    countLabel "retriable_seen", countLabel "crashes (non-zero or timeout)",
    "  timing (seconds):".toList, timeLabel "avg", timeLabel "p50", timeLabel "p95",
    timeLabel "min", timeLabel "max"]

/-- What follows the labels: the counts, nothing behind the heading of the times, and the times. -/
def values (s : Summary) : List (List Char) :=
  [Decimal.natural s.iterations.toNat, Decimal.natural s.successes.toNat,
    Decimal.natural s.rateLimits.toNat, Decimal.natural s.retriableSeen.toNat,
    Decimal.natural s.crashes.toNat, [], (Decimal.fixed 2 s.timing.avg).toList,
    (Decimal.fixed 2 s.timing.p50).toList, (Decimal.fixed 2 s.timing.p95).toList,
    (Decimal.fixed 2 s.timing.min).toList, (Decimal.fixed 2 s.timing.max).toList]

/-- The lines behind the command. -/
def lines (s : Summary) : List (List Char) := List.zipWith (· ++ ·) labels s.values

lemma toList_countLine (name : String) (n : UInt32) :
    (countLine name n).toList = countLabel name ++ (Decimal.natural n.toNat ++ ['\n']) := by
  simp [countLine, countLabel]

lemma toList_timeLine (name : String) (x : Binary64) :
    (timeLine name x).toList = timeLabel name ++ ((Decimal.fixed 2 x).toList ++ ['\n']) := by
  -- the number is left out of the simplification, which would compute it
  have spelled (text : String) : ("    " ++ name ++ ": " ++ text ++ "\n").toList =
      timeLabel name ++ (text.toList ++ ['\n']) := by simp [timeLabel]
  exact spelled _

/-- The report is the command and the lines behind it. -/
lemma toList_render (s : Summary) :
    s.render.toList =
      ("\nSummary:\n  command: ".toList ++ s.command.toList) ++ '\n' :: Text.unlines s.lines := by
  have heading : "  timing (seconds):\n".toList = "  timing (seconds):".toList ++ ['\n'] := rfl
  have break_line : "\n".toList = ['\n'] := rfl
  unfold render lines Text.unlines
  simp only [String.toList_append, toList_countLine, toList_timeLine, heading, break_line, labels,
    values, List.zipWith_cons_cons, List.zipWith_nil_left, List.flatMap_cons, List.flatMap_nil,
    List.append_assoc, List.append_nil, List.cons_append, List.nil_append]

lemma not_mem_labels {label : List Char} (mem : label ∈ labels) : '\n' ∉ label := by
  have usual : labels.all (!·.contains '\n') := by decide
  simpa using List.all_eq_true.1 usual label mem

/-- No value holds a line break. -/
lemma not_mem_values {s : Summary} {value : List Char} (mem : value ∈ s.values) :
    '\n' ∉ value := by
  have count (n : Nat) : '\n' ∉ Decimal.natural n := fun inside =>
    absurd (Decimal.isDigit_of_mem_natural inside) (by decide)
  have time (x : Binary64) : '\n' ∉ (Decimal.fixed 2 x).toList := (bare_fixed 2 x).2.2
  unfold values at mem
  simp only [List.mem_cons, List.not_mem_nil, or_false] at mem
  rcases mem with rfl | rfl | rfl | rfl | rfl | rfl | rfl | rfl | rfl | rfl | rfl
  case inr.inr.inr.inr.inr.inl => exact List.not_mem_nil
  all_goals first | exact count _ | exact time _

/-- No line behind the command holds a line break of its own. -/
lemma not_mem_lines (s : Summary) : ∀ line ∈ s.lines, '\n' ∉ line := by
  intro line mem
  obtain ⟨i, at_i⟩ := List.mem_iff_getElem?.1 mem
  obtain ⟨label, value, at_label, at_value, rfl⟩ := List.getElem?_zipWith_eq_some.1 at_i
  rw [List.mem_append, not_or]
  exact ⟨not_mem_labels (List.mem_of_getElem? at_label),
    not_mem_values (List.mem_of_getElem? at_value)⟩

lemma length_lines (s : Summary) : s.lines.length = labels.length := by
  simp [lines, labels, values]

/-- Two reports tell the same: the command, the counts, and the times with two decimals. -/
structure TellsLike (r s : Summary) : Prop where
  command : r.command = s.command
  iterations : r.iterations = s.iterations
  successes : r.successes = s.successes
  rateLimits : r.rateLimits = s.rateLimits
  retriableSeen : r.retriableSeen = s.retriableSeen
  crashes : r.crashes = s.crashes
  avg : Decimal.fixed 2 r.timing.avg = Decimal.fixed 2 s.timing.avg
  p50 : Decimal.fixed 2 r.timing.p50 = Decimal.fixed 2 s.timing.p50
  p95 : Decimal.fixed 2 r.timing.p95 = Decimal.fixed 2 s.timing.p95
  min : Decimal.fixed 2 r.timing.min = Decimal.fixed 2 s.timing.min
  max : Decimal.fixed 2 r.timing.max = Decimal.fixed 2 s.timing.max

/-- What a report tells is read off its command and its lines. -/
lemma tellsLike_of_lines_eq {r s : Summary} (command : r.command = s.command)
    (same : r.lines = s.lines) : r.TellsLike s := by
  have count {m n : UInt32} (h : Decimal.natural m.toNat = Decimal.natural n.toNat) : m = n :=
    UInt32.toNat_inj.1 (Decimal.natural_injective h)
  unfold lines values labels at same
  simp only [List.zipWith_cons_cons, List.zipWith_nil_left, List.cons.injEq,
    List.append_cancel_left_eq, and_true, true_and, String.toList_inj] at same
  obtain ⟨iterations, successes, rateLimits, retriableSeen, crashes, times⟩ := same
  obtain ⟨avg, p50, p95, min, max⟩ := times
  exact ⟨command, count iterations, count successes, count rateLimits, count retriableSeen,
    count crashes, avg, p50, p95, min, max⟩

/-- The lines are made of what a report tells. -/
lemma TellsLike.lines_eq {r s : Summary} (alike : r.TellsLike s) : r.lines = s.lines := by
  obtain ⟨-, iterations, successes, rateLimits, retriableSeen, crashes, avg, p50, p95, min, max⟩ :=
    alike
  unfold lines values
  rw [iterations, successes, rateLimits, retriableSeen, crashes, avg, p50, p95, min, max]

/--
A report can be understood in one way only. Two summaries have the same report exactly if they have
the same command, the same counts and the same times with two decimals, whatever the commands hold.
The exit code is told with the crashes.
-/
theorem render_eq_iff (r s : Summary) :
    r.render = s.render ↔ r.TellsLike s ∧ r.exitCode = s.exitCode := by
  rw [← String.toList_inj, toList_render, toList_render]
  constructor
  · intro same
    have as_many : r.lines.length = s.lines.length := by rw [length_lines, length_lines]
    obtain ⟨fronts, lines⟩ :=
      Text.append_unlines_inj (not_mem_lines r) (not_mem_lines s) as_many same
    have alike := tellsLike_of_lines_eq (String.toList_inj.1 (List.append_cancel_left fronts)) lines
    exact ⟨alike, by rw [exitCode, exitCode, alike.crashes]⟩
  · rintro ⟨alike, -⟩
    rw [alike.command, alike.lines_eq]

end Soak.Summary

end SoakRig
