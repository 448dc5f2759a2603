import SoakRig.Proofs.Masking.Secrets

/-!
# Positions of a pass

A pass can also be made over the line as one text in bytes: it carries a position from which the text
is searched, cuts the text at the positions that it finds, and puts it together anew with stars in it,
which may make it longer. A cut is made between characters only (`cut?`), so such a pass could be torn.
What one turn does is said once, with the occurrence that it finds (`turn_cases`). From it follows that
no turn is torn, that each round leaves less of the text to be searched and one occurrence less in it,
and that the turns come to an end with the text that the pass makes.
-/

namespace SoakRig.Masking

/-! ## Cuts -/

/-- The text up to a position and the text from it on, if the position is between characters. -/
def cut? (text : String) (position : Nat) : Option (String × String) :=
  if valid : String.Pos.Raw.IsValid text ⟨position⟩ then
    let p := text.pos ⟨position⟩ valid
    some ((text.sliceTo p).copy, (text.sliceFrom p).copy)
  else none

/-- The position is not behind the end of the text, and it is between characters. -/
structure IsPlace (text : String) (position : Nat) : Prop where
  le : position ≤ text.utf8ByteSize
  valid : String.Pos.Raw.IsValid text ⟨position⟩

lemma isPlace_append (front back : String) : IsPlace (front ++ back) front.utf8ByteSize where
  le := by
    rw [String.utf8ByteSize_append]
    exact Nat.le_add_right ..
  valid := String.Pos.Raw.isValid_iff_exists_append.2 ⟨front, back, rfl, rfl⟩

/-- A text is cut where its front ends. -/
lemma cut?_append (front back : String) :
    cut? (front ++ back) front.utf8ByteSize = some (front, back) := by
  have place := isPlace_append front back
  let p := (front ++ back).pos ⟨front.utf8ByteSize⟩ place.valid
  have parts : p.Splits front back := ⟨rfl, rfl⟩
  rw [cut?, dif_pos place.valid]
  change some ((String.sliceTo _ p).copy, (String.sliceFrom _ p).copy) = some (front, back)
  rw [p.splits.eq_left parts, p.splits.eq_right parts]

/-- Where a phrase occurs first in a text. -/
def find? (phrase text : String) : Option Nat :=
  (Text.splitFirst? phrase.toList text.toList).map fun parts =>
    (String.ofList parts.1).utf8ByteSize

/-! ## Turns -/

/-- A text that is searched from a position on. -/
structure Scan where
  text : String
  position : Nat
deriving DecidableEq

/-- The positions of a phrase, of the value behind it, and of what follows the value. -/
structure Marks where
  phrase : Nat
  value : Nat
  rest : Nat
deriving DecidableEq

/-- What comes of a turn. -/
inductive Turn where
  /-- The phrase does not occur any more. -/
  | last
  /-- A value gave way to stars. -/
  | round (marks : Marks) (scan : Scan)
  /-- A cut would have gone through a character or beyond the text. -/
  | torn
deriving DecidableEq

namespace Scan

/-- The text is put together anew around the value behind an occurrence of the phrase. -/
def starOut (phrase : String) (s : Scan) (found : Nat) : Turn :=
  let start := found + phrase.utf8ByteSize
  match cut? s.text start with
  | none => .torn
  | some (_, behind) =>
    let stop := start + valueEnd behind
    match cut? s.text found, cut? s.text stop with
    | some (front, _), some (_, rest) =>
      .round ⟨found, start, stop⟩ ⟨front ++ (phrase ++ "***") ++ rest,
        found + (phrase ++ "***").utf8ByteSize⟩
    | _, _ => .torn

/-- Stars out the value behind the next occurrence of the phrase, if there is one. -/
def turn (phrase : String) (s : Scan) : Turn :=
  if s.position < s.text.utf8ByteSize then
    match cut? s.text s.position with
    | none => .torn
    | some (_, rest) =>
      match find? phrase rest with
      | none => .last
      | some offset => s.starOut phrase (s.position + offset)
  else .last

/-- How much of the text is left to be searched. -/
def remainder (s : Scan) : Nat := s.text.utf8ByteSize - s.position

/-- The text that was searched, and the rest of it. -/
def between (front rest : String) : Scan := ⟨front ++ rest, front.utf8ByteSize⟩

lemma remainder_between (front rest : String) :
    (between front rest).remainder = rest.utf8ByteSize := by
  rw [remainder, between, String.utf8ByteSize_append, Nat.add_sub_cancel_left]

end Scan

/-- The parts of a text around the first occurrence of the phrase and the value behind it. -/
structure Found (phrase text before value rest : String) : Prop where
  split : Text.splitFirst? phrase.toList text.toList =
    some (before.toList, value.toList ++ rest.toList)
  ends : Scanner.start.split (value.toList ++ rest.toList) = (value.toList, rest.toList)

variable {phrase text before value rest : String}

lemma exists_found {b a : List Char}
    (split : Text.splitFirst? phrase.toList text.toList = some (b, a)) :
    ∃ before value rest, Found phrase text before value rest := by
  have whole := Scanner.split_append .start a
  refine ⟨.ofList b, .ofList (Scanner.start.split a).1, .ofList (Scanner.start.split a).2, ?_, ?_⟩
  · simp only [String.toList_ofList, whole, split]
  · simp only [String.toList_ofList, whole]

namespace Found

lemma text_eq (found : Found phrase text before value rest) :
    text = before ++ phrase ++ value ++ rest := by
  rw [← String.toList_inj, Text.eq_append_of_splitFirst? found.split]
  simp only [String.toList_append, List.append_assoc]

/-- The parts behind what is in front of the text. -/
lemma append_eq (found : Found phrase text before value rest) (front : String) :
    front ++ text = front ++ before ++ phrase ++ value ++ rest := by
  rw [found.text_eq]
  simp only [String.append_assoc]

lemma find?_eq (found : Found phrase text before value rest) :
    find? phrase text = some before.utf8ByteSize := by
  rw [find?, found.split, Option.map_some, String.ofList_toList]

lemma valueEnd_eq (found : Found phrase text before value rest) :
    valueEnd (value ++ rest) = value.utf8ByteSize := by
  rw [valueEnd, String.toList_append, found.ends, String.ofList_toList]

lemma afterValue_eq (found : Found phrase text before value rest) :
    afterValue (value.toList ++ rest.toList) = rest.toList := by
  rw [afterValue, found.ends]

/-- Behind the value there is less of the text left. -/
lemma utf8ByteSize_lt (full : phrase ≠ "") (found : Found phrase text before value rest) :
    rest.utf8ByteSize < text.utf8ByteSize := by
  have filled : phrase.utf8ByteSize ≠ 0 := mt String.utf8ByteSize_eq_zero_iff.1 full
  rw [found.text_eq]
  simp only [String.utf8ByteSize_append]
  omega

end Found

/-! ## What a turn does -/

/-- The value behind a front of the text gives way to stars. -/
lemma starOut_append (ends : valueEnd (value ++ rest) = value.utf8ByteSize) (front : String)
    (position : Nat) :
    Scan.starOut phrase ⟨front ++ phrase ++ value ++ rest, position⟩ front.utf8ByteSize =
      .round ⟨front.utf8ByteSize, (front ++ phrase).utf8ByteSize,
        (front ++ phrase ++ value).utf8ByteSize⟩ (.between (front ++ (phrase ++ "***")) rest) := by
  have at_phrase : cut? (front ++ phrase ++ value ++ rest) front.utf8ByteSize =
      some (front, phrase ++ value ++ rest) := by
    rw [← cut?_append]
    simp only [String.append_assoc]
  have at_value : cut? (front ++ phrase ++ value ++ rest) (front ++ phrase).utf8ByteSize =
      some (front ++ phrase, value ++ rest) := by
    rw [← cut?_append]
    simp only [String.append_assoc]
  have at_rest : cut? (front ++ phrase ++ value ++ rest) (front ++ phrase ++ value).utf8ByteSize =
      some (front ++ phrase ++ value, rest) := cut?_append _ _
  have start : front.utf8ByteSize + phrase.utf8ByteSize = (front ++ phrase).utf8ByteSize :=
    String.utf8ByteSize_append.symm
  have stop : (front ++ phrase).utf8ByteSize + value.utf8ByteSize =
      (front ++ phrase ++ value).utf8ByteSize := String.utf8ByteSize_append.symm
  have on : front.utf8ByteSize + (phrase ++ "***").utf8ByteSize =
      (front ++ (phrase ++ "***")).utf8ByteSize := String.utf8ByteSize_append.symm
  simp only [Scan.starOut, start, at_value, ends, stop, at_phrase, at_rest, on, Scan.between]

/-- A turn finds the value behind the first occurrence, and the text is searched on behind the
stars. -/
lemma turn_of_found (full : phrase ≠ "") (found : Found phrase text before value rest)
    (front : String) : (Scan.between front text).turn phrase =
      .round ⟨(front ++ before).utf8ByteSize, (front ++ before ++ phrase).utf8ByteSize,
          (front ++ before ++ phrase ++ value).utf8ByteSize⟩
        (.between (front ++ before ++ (phrase ++ "***")) rest) := by
  have filled : front.utf8ByteSize < (front ++ text).utf8ByteSize := by
    rw [String.utf8ByteSize_append]
    exact Nat.lt_add_of_pos_right (Nat.zero_lt_of_lt (found.utf8ByteSize_lt full))
  rw [Scan.turn, Scan.between, if_pos filled, cut?_append]
  simp only [found.find?_eq]
  rw [← String.utf8ByteSize_append, found.append_eq, starOut_append found.valueEnd_eq]

/-- A turn without an occurrence is the last. -/
lemma turn_of_none (none : Text.splitFirst? phrase.toList text.toList = none) (front : String) :
    (Scan.between front text).turn phrase = .last := by
  have nowhere : find? phrase text = .none := by rw [find?, none, Option.map_none]
  rw [Scan.turn, Scan.between, cut?_append]
  simp only [nowhere, ite_self]

/-- A turn is the last, or it finds an occurrence with a value and goes on behind the stars. -/
lemma turn_cases (full : phrase ≠ "") (front text : String) :
    ((Scan.between front text).turn phrase = .last ∧
      Text.splitFirst? phrase.toList text.toList = none) ∨
    ∃ before value rest, Found phrase text before value rest ∧
      (Scan.between front text).turn phrase =
        .round ⟨(front ++ before).utf8ByteSize, (front ++ before ++ phrase).utf8ByteSize,
            (front ++ before ++ phrase ++ value).utf8ByteSize⟩
          (.between (front ++ before ++ (phrase ++ "***")) rest) := by
  cases split : Text.splitFirst? phrase.toList text.toList with
  | none => exact .inl ⟨turn_of_none split front, rfl⟩
  | some parts =>
    obtain ⟨before, value, rest, found⟩ := exists_found split
    exact .inr ⟨before, value, rest, found, turn_of_found full found front⟩

/-! ## Occurrences -/

/-- How often a phrase occurs in a text: with how many ends of the text it begins. -/
def occurrences (phrase text : List Char) : Nat := text.tails.countP (phrase <+: ·)

/-- What is in front of a text takes no occurrence away. -/
lemma occurrences_le_append (phrase front text : List Char) :
    occurrences phrase text ≤ occurrences phrase (front ++ text) := by
  induction front with
  | nil => exact Nat.le_refl _
  | cons c front ih =>
    refine ih.trans ?_
    rw [List.cons_append, occurrences, occurrences, List.tails_cons, List.countP_cons]
    exact Nat.le_add_right ..

/-- An occurrence is one more than those behind it. -/
lemma occurrences_lt_phrase {phrase : List Char} (full : phrase ≠ []) (text : List Char) :
    occurrences phrase text < occurrences phrase (phrase ++ text) := by
  obtain ⟨c, others, rfl⟩ := List.exists_cons_of_ne_nil full
  have later := occurrences_le_append (c :: others) others text
  have here : c :: others <+: c :: (others ++ text) := ⟨text, rfl⟩
  rw [List.cons_append, occurrences, occurrences, List.tails_cons,
    List.countP_cons, if_pos (decide_eq_true here)]
  exact Nat.lt_succ_of_le later

/-- Behind the value there are fewer occurrences left. -/
lemma Found.occurrences_lt (full : phrase ≠ "") (found : Found phrase text before value rest) :
    occurrences phrase.toList rest.toList < occurrences phrase.toList text.toList := by
  have filled : phrase.toList ≠ [] := mt String.toList_eq_nil_iff.1 full
  have text_at : text.toList =
      before.toList ++ (phrase.toList ++ (value.toList ++ rest.toList)) := by
    rw [found.text_eq]
    simp only [String.toList_append, List.append_assoc]
  calc occurrences phrase.toList rest.toList
      ≤ occurrences phrase.toList (value.toList ++ rest.toList) := occurrences_le_append ..
    _ < occurrences phrase.toList (phrase.toList ++ (value.toList ++ rest.toList)) :=
      occurrences_lt_phrase filled _
    _ ≤ occurrences phrase.toList text.toList := by
      rw [text_at]
      exact occurrences_le_append ..

/-! ## A row of turns -/

/-- A search has come from one scan to another in so many rounds. -/
inductive Rounds (phrase : String) (first : Scan) : Nat → Scan → Prop
  | none : Rounds phrase first 0 first
  | more {n : Nat} {s t : Scan} {marks : Marks} :
    Rounds phrase first n s → s.turn phrase = .round marks t → Rounds phrase first (n + 1) t

/-- How far a pass over a line has come after some rounds. -/
structure Stands (line phrase : String) (n : Nat) (front rest : String) : Prop where
  pass_eq : front.toList ++ pass rest.toList phrase.toList = pass line.toList phrase.toList
  rounds_le : n + occurrences phrase.toList rest.toList ≤ occurrences phrase.toList line.toList

variable {line front : String} {n : Nat} {s : Scan}

/-- One more round of a pass. -/
lemma Stands.round (full : phrase ≠ "") (stands : Stands line phrase n front text)
    (found : Found phrase text before value rest) :
    Stands line phrase (n + 1) (front ++ before ++ (phrase ++ "***")) rest := by
  have filled : phrase.toList ≠ [] := mt String.toList_eq_nil_iff.1 full
  constructor
  · rw [← stands.pass_eq, pass_of_some filled found.split, found.afterValue_eq]
    simp only [String.toList_append, List.append_assoc]
    rfl
  · have := stands.rounds_le
    have := found.occurrences_lt full
    omega

/-- Wherever a search has come to, a pass stands there. -/
lemma exists_stands (full : phrase ≠ "") (rounds : Rounds phrase ⟨line, 0⟩ n s) :
    ∃ front rest, s = .between front rest ∧ Stands line phrase n front rest := by
  induction rounds with
  | none =>
    refine ⟨"", line, ?_, rfl, Nat.le_of_eq (Nat.zero_add _)⟩
    rw [Scan.between, String.empty_append]
    rfl
  | more _ turn ih =>
    obtain ⟨front, text, rfl, stands⟩ := ih
    obtain ⟨ended, -⟩ | ⟨before, value, rest, found, round⟩ := turn_cases full front text
    · cases turn.symm.trans ended
    · cases turn.symm.trans round
      exact ⟨_, rest, rfl, stands.round full found⟩

/-- A search comes to an end from wherever it has come to. -/
lemma exists_last (full : phrase ≠ "") {first : Scan}
    (rounds : Rounds phrase first n (.between front text)) :
    ∃ m t, Rounds phrase first m t ∧ t.turn phrase = .last := by
  induction size : text.utf8ByteSize using Nat.strong_induction_on generalizing n front text with
  | _ k ih =>
    subst size
    obtain ⟨ended, -⟩ | ⟨before, value, rest, found, round⟩ := turn_cases full front text
    · exact ⟨n, _, rounds, ended⟩
    · exact ih _ (found.utf8ByteSize_lt full) (rounds.more round) rfl

/-- The marks of a turn are places in the text, in order from the position on. -/
structure Marks.Within (marks : Marks) (s : Scan) : Prop where
  phrase : IsPlace s.text marks.phrase
  value : IsPlace s.text marks.value
  rest : IsPlace s.text marks.rest
  ordered : s.position ≤ marks.phrase ∧ marks.phrase ≤ marks.value ∧ marks.value ≤ marks.rest

/-- The marks of a round are places. -/
lemma Found.within (found : Found phrase text before value rest) (front : String) :
    Marks.Within ⟨(front ++ before).utf8ByteSize, (front ++ before ++ phrase).utf8ByteSize,
      (front ++ before ++ phrase ++ value).utf8ByteSize⟩ (.between front text) := by
  have place (x y : String) (split : front ++ text = x ++ y) :
      IsPlace (Scan.between front text).text x.utf8ByteSize := by
    rw [Scan.between, split]
    exact isPlace_append x y
  have whole := found.append_eq front
  refine ⟨place _ (phrase ++ value ++ rest) ?_, place _ (value ++ rest) ?_, place _ rest whole, ?_⟩
  · rw [whole]
    simp only [String.append_assoc]
  · rw [whole]
    simp only [String.append_assoc]
  · simp only [Scan.between, String.utf8ByteSize_append]
    omega

/--
The search for a sensitive phrase comes to an end, with the text that the pass makes of the line. It
takes no more rounds than the phrase occurs in the line, since each leaves less of the text to be
searched, however much longer the stars make the text. All positions on the way are places in the text
as it is then.
-/
theorem rounds_end (line phrase : String) (listed : phrase ∈ sensitivePhrases) :
    (∀ n s, Rounds phrase ⟨line, 0⟩ n s →
      n ≤ occurrences phrase.toList line.toList ∧ IsPlace s.text s.position ∧
      (s.turn phrase = .last ∨ ∃ marks t, s.turn phrase = .round marks t ∧
        marks.Within s ∧ t.remainder < s.remainder)) ∧
    ∃ n s, Rounds phrase ⟨line, 0⟩ n s ∧ s.turn phrase = .last ∧
      s.text = .ofList (pass line.toList phrase.toList) := by
  have full : phrase ≠ "" := by
    rintro rfl
    exact absurd listed (by decide)
  refine ⟨fun n s rounds => ?_, ?_⟩
  · obtain ⟨front, text, rfl, stands⟩ := exists_stands full rounds
    refine ⟨Nat.le_trans (Nat.le_add_right ..) stands.rounds_le, isPlace_append front text, ?_⟩
    obtain ⟨ended, -⟩ | ⟨before, value, rest, found, round⟩ := turn_cases full front text
    · exact .inl ended
    · refine .inr ⟨_, _, round, found.within front, ?_⟩
      rw [Scan.remainder_between, Scan.remainder_between]
      exact found.utf8ByteSize_lt full
  · have start : Rounds phrase ⟨line, 0⟩ 0 (.between "" line) := by
      rw [Scan.between, String.empty_append]
      exact .none
    obtain ⟨n, s, rounds, ended⟩ := exists_last full start
    refine ⟨n, s, rounds, ended, ?_⟩
    obtain ⟨front, text, rfl, stands⟩ := exists_stands full rounds
    obtain ⟨-, none⟩ | ⟨before, value, rest, found, round⟩ := turn_cases full front text
    · rw [← stands.pass_eq, pass_of_none none, Scan.between, ← String.toList_append,
        String.ofList_toList]
    · cases ended.symm.trans round

/-- A value of no bytes, whose stars make the text longer, and one that a backslash ends behind an open
quote. -/
theorem rounds_end_lengthened :
    let line := "ключ TOKEN= TOKEN=\"ü\\"
    let longer : Scan := ⟨"ключ TOKEN=*** TOKEN=\"ü\\", 18⟩
    "TOKEN=" ∈ sensitivePhrases ∧ Rounds "TOKEN=" ⟨line, 0⟩ 1 longer ∧
      IsPlace longer.text longer.position ∧ line.utf8ByteSize < longer.text.utf8ByteSize ∧
      longer.remainder < (Scan.mk line 0).remainder ∧
      ∃ n s, Rounds "TOKEN=" ⟨line, 0⟩ n s ∧ n ≤ 2 ∧ s.text = "ключ TOKEN=*** TOKEN=***" := by
  intro line longer
  have listed : "TOKEN=" ∈ sensitivePhrases := by decide
  obtain ⟨each, n, s, rounds, -, made⟩ := rounds_end line "TOKEN=" listed
  have turn : (Scan.mk line 0).turn "TOKEN=" = .round ⟨9, 15, 15⟩ longer := by decide +kernel
  have first : Rounds "TOKEN=" ⟨line, 0⟩ 1 longer := Rounds.none.more turn
  have twice : occurrences "TOKEN=".toList line.toList = 2 := by decide +kernel
  have masked : String.ofList (pass line.toList "TOKEN=".toList) = "ключ TOKEN=*** TOKEN=***" := by
    decide +kernel
  refine ⟨listed, first, (each 1 longer first).2.1, by decide +kernel, ?_, n, s, rounds,
    twice ▸ (each n s rounds).1, made.trans masked⟩
  obtain ended | ⟨marks, t, round, -, less⟩ := (each 0 _ .none).2.2
  · cases turn.symm.trans ended
  · cases turn.symm.trans round
    exact less

/-- A position within a character would tear the text. -/
example : Scan.turn "TOKEN=" ⟨"ключ TOKEN=", 1⟩ = .torn := by
  decide +kernel

end SoakRig.Masking
