import Mathlib.Data.List.Infix
import SoakRig.Masking

/-!
# Passes over a line

A pass that masks the values of one phrase, as a recursion over the line: it keeps the text up to
the phrase and the phrase itself, puts stars in place of the value, and goes on with the text behind
it.
-/

namespace SoakRig.Masking

variable {phrase line before after : List Char}

namespace Scanner

/-- Only white space ends a value. -/
lemma isBlank_of_next? {s : Scanner} {c : Char} (h : s.next? c = none) : Text.isBlank c := by
  unfold next? at h
  split at h
  · cases h
  split at h
  · cases h
  split at h
  · cases h
  split at h
  · cases h
  split at h
  · assumption
  · cases h

/-- What follows a value is empty or begins with white space. -/
lemma isBlank_of_split {s : Scanner} {text : List Char} :
    ∀ c ∈ (s.split text).2.head?, Text.isBlank c := by
  induction text generalizing s with
  | nil => exact nofun
  | cons c cs ih =>
    rw [split]
    cases e : s.next? c with
    | none =>
      intro d at_d
      cases at_d
      exact isBlank_of_next? e
    | some s' => exact ih

/-- A value that would begin with white space is empty. -/
lemma split_start_of_isBlank {text : List Char} (h : ∀ c ∈ text.head?, Text.isBlank c) :
    start.split text = ([], text) := by
  cases text with
  | nil => rfl
  | cons c cs =>
    have blank : Text.isBlank c = true := h c rfl
    have plain : c ≠ '\\' ∧ ¬(c = '"' ∨ c = '\'') := by
      refine ⟨?_, ?_⟩
      · rintro rfl
        exact absurd blank (by decide)
      · rintro (rfl | rfl) <;> exact absurd blank (by decide)
    have stops : start.next? c = none := by
      simp only [next?, start, Bool.false_eq_true, if_false, if_neg plain.1, if_neg plain.2, blank,
        if_true]
    rw [split, stops]

end Scanner

/-- What follows a value is empty or begins with white space. -/
lemma isBlank_of_afterValue {text : List Char} :
    ∀ c ∈ (afterValue text).head?, Text.isBlank c :=
  Scanner.isBlank_of_split

/-- Stars are a value like any other. -/
lemma afterValue_stars {rest : List Char} (h : ∀ c ∈ rest.head?, Text.isBlank c) :
    afterValue (stars ++ rest) = rest := by
  show (Scanner.start.split rest).2 = rest
  rw [Scanner.split_start_of_isBlank h]

/-- The text behind a value is the end of the text that begins with the value. -/
lemma exists_value (text : List Char) : ∃ value, text = value ++ afterValue text :=
  ⟨_, (Scanner.split_append .start text).symm⟩

/-- Without an occurrence of the phrase nothing is left to do. -/
lemma finish_of_none {c : Cursor} (h : Text.splitFirst? phrase c.rest = none) :
    c.finish phrase = c := by
  have stops : c.round? phrase = none := by
    rw [Cursor.round?, h]
    rfl
  rw [Cursor.finish]
  split
  · rfl
  · split
    · rfl
    · next d goes => cases stops.symm.trans goes

/-- With an occurrence of the phrase the search goes on behind its value. -/
lemma finish_of_some {c : Cursor} (full : phrase ≠ [])
    (h : Text.splitFirst? phrase c.rest = some (before, after)) :
    c.finish phrase =
      Cursor.finish phrase ⟨c.searched ++ before ++ phrase ++ stars, afterValue after⟩ := by
  have goes : c.round? phrase =
      some ⟨c.searched ++ before ++ phrase ++ stars, afterValue after⟩ := by
    rw [Cursor.round?, h]
    rfl
  rw [Cursor.finish, dif_neg full]
  split
  · next stops => cases goes.symm.trans stops
  · next d goes' =>
    cases goes.symm.trans goes'
    rfl

/-- The line is shorter behind the value. -/
lemma length_afterValue_lt (full : phrase ≠ [])
    (h : Text.splitFirst? phrase line = some (before, after)) :
    (afterValue after).length < line.length := by
  have goes : Cursor.round? phrase ⟨[], line⟩ =
      some ⟨before ++ phrase ++ stars, afterValue after⟩ := by
    rw [Cursor.round?, h]
    rfl
  exact Cursor.length_rest_lt_of_round? full goes

/-- A pass leaves a line alone in which the phrase does not occur. -/
lemma pass_of_none (h : Text.splitFirst? phrase line = none) : pass line phrase = line := by
  rw [pass, finish_of_none h]
  rfl

/-- A search looks no more at what it has passed. -/
lemma line_finish (full : phrase ≠ []) (searched line : List Char) :
    (Cursor.finish phrase ⟨searched, line⟩).line = searched ++ pass line phrase := by
  induction e : line.length using Nat.strong_induction_on generalizing searched line with
  | _ n ih =>
    subst e
    cases h : Text.splitFirst? phrase line with
    | none => rw [finish_of_none h, pass_of_none h, Cursor.line]
    | some parts =>
      obtain ⟨before, after⟩ := parts
      have shorter := length_afterValue_lt full h
      rw [pass, finish_of_some (c := ⟨searched, line⟩) full h,
        finish_of_some (c := ⟨[], line⟩) full h, ih _ shorter _ _ rfl, ih _ shorter _ _ rfl]
      simp only [List.append_assoc, List.nil_append]

/-- A pass stars out the value behind the first occurrence, and goes on behind it. -/
lemma pass_of_some (full : phrase ≠ [])
    (h : Text.splitFirst? phrase line = some (before, after)) :
    pass line phrase = before ++ phrase ++ stars ++ pass (afterValue after) phrase := by
  rw [pass, finish_of_some full h, line_finish full, List.nil_append]

/-- A relation of a line and its pass, by the occurrences of the phrase. -/
lemma pass_induct (full : phrase ≠ []) {P : List Char → List Char → Prop}
    (none : ∀ line, Text.splitFirst? phrase line = none → P line line)
    (some : ∀ line before after, Text.splitFirst? phrase line = some (before, after) →
      P (afterValue after) (pass (afterValue after) phrase) →
      P line (before ++ phrase ++ stars ++ pass (afterValue after) phrase)) :
    P line (pass line phrase) := by
  induction e : line.length using Nat.strong_induction_on generalizing line with
  | _ n ih =>
    subst e
    cases h : Text.splitFirst? phrase line with
    | none =>
      rw [pass_of_none h]
      exact none line h
    | some parts =>
      obtain ⟨before, after⟩ := parts
      rw [pass_of_some full h]
      exact some line before after h (ih _ (length_afterValue_lt full h) rfl)

/-- A pass keeps the first character of a line. -/
lemma head?_pass (full : phrase ≠ []) : (pass line phrase).head? = line.head? := by
  refine pass_induct (P := fun line out => out.head? = line.head?) full (fun _ _ => rfl) ?_
  intro line before after h _
  obtain ⟨c, cs, rfl⟩ := List.exists_cons_of_ne_nil full
  rw [Text.eq_append_of_splitFirst? h]
  cases before <;> rfl

end SoakRig.Masking
