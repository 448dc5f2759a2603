/-!
# Phrases in a text

Where a phrase occurs in a text, and the text with every occurrence replaced, reading from left to
right and never looking again at what was put in.
-/

namespace SoakRig.Text

/-- What follows the phrase at the start of the text, if the text starts with it. -/
def strip? : List Char → List Char → Option (List Char)
  | [], text => some text
  | _ :: _, [] => none
  | p :: ps, c :: cs => if p = c then strip? ps cs else none

/-- The phrase is taken off the front of the text and nothing else is lost. -/
theorem eq_append_of_strip? {phrase text rest : List Char} (h : strip? phrase text = some rest) :
    text = phrase ++ rest := by
  induction phrase generalizing text with
  | nil => simpa [strip?] using h
  | cons p ps ih =>
    cases text with
    | nil => simp [strip?] at h
    | cons c cs =>
      by_cases hc : p = c
      · subst hc
        simp only [strip?, if_true] at h
        simp [ih h]
      · simp [strip?, hc] at h

@[simp] theorem strip?_append (phrase rest : List Char) :
    strip? phrase (phrase ++ rest) = some rest := by
  induction phrase with
  | nil => rfl
  | cons p ps ih => simpa [strip?] using ih

theorem length_lt_of_strip? {phrase text rest : List Char} (hp : phrase ≠ [])
    (h : strip? phrase text = some rest) : rest.length < text.length := by
  have := List.length_pos_iff.2 hp
  rw [eq_append_of_strip? h, List.length_append]
  omega

/-- The text holds the phrase somewhere. -/
def holds (phrase : List Char) : List Char → Bool
  | [] => phrase.isEmpty
  | c :: cs => (strip? phrase (c :: cs)).isSome || holds phrase cs

/-- A phrase can be taken off the front of a text exactly if the text starts with it. -/
theorem isSome_strip?_iff {phrase text : List Char} :
    (strip? phrase text).isSome ↔ phrase <+: text := by
  constructor
  · intro h
    obtain ⟨rest, hr⟩ := Option.isSome_iff_exists.1 h
    exact ⟨rest, (eq_append_of_strip? hr).symm⟩
  · rintro ⟨rest, rfl⟩
    simp

/-- A text holds a phrase exactly if the phrase stands somewhere in it. -/
theorem holds_iff_infix {phrase text : List Char} : holds phrase text ↔ phrase <:+: text := by
  induction text with
  | nil => simp [holds]
  | cons c cs ih => simp only [holds, Bool.or_eq_true, isSome_strip?_iff, ih, List.infix_cons_iff]

/-- The text before the first occurrence of the phrase and the text after it. -/
def splitFirst? (phrase : List Char) : List Char → Option (List Char × List Char)
  | [] => if phrase.isEmpty then some ([], []) else none
  | c :: cs =>
    match strip? phrase (c :: cs) with
    | some rest => some ([], rest)
    | none => (splitFirst? phrase cs).map fun (before, after) => (c :: before, after)

/-- The text is the part before, the phrase, and the part after. -/
theorem eq_append_of_splitFirst? {phrase text before after : List Char}
    (h : splitFirst? phrase text = some (before, after)) : text = before ++ phrase ++ after := by
  induction text generalizing before with
  | nil =>
    simp only [splitFirst?, List.isEmpty_iff] at h
    split at h <;> simp_all
  | cons c cs ih =>
    simp only [splitFirst?] at h
    split at h
    · next rest hs =>
      simp only [Option.some.injEq, Prod.mk.injEq] at h
      obtain ⟨rfl, rfl⟩ := h
      simpa using eq_append_of_strip? hs
    · simp only [Option.map_eq_some_iff, Prod.mk.injEq, Prod.exists] at h
      obtain ⟨b, a, hba, rfl, rfl⟩ := h
      simp [ih hba]

/-- A text that cannot be split at the phrase does not hold it. -/
theorem not_infix_of_splitFirst? {phrase text : List Char} (h : splitFirst? phrase text = none) :
    ¬phrase <:+: text := by
  induction text with
  | nil =>
    simp only [splitFirst?, List.isEmpty_iff] at h
    split at h
    · cases h
    · next full => simpa using full
  | cons c cs ih =>
    simp only [splitFirst?] at h
    split at h
    · cases h
    · next start =>
      rw [Option.map_eq_none_iff] at h
      rw [List.infix_cons_iff, ← isSome_strip?_iff, start]
      exact fun held => held.elim nofun (ih h)

/-- No occurrence of the phrase comes before the one where the text is split. -/
theorem length_le_of_splitFirst? {phrase text before after b a : List Char}
    (h : splitFirst? phrase text = some (before, after)) (at_b : text = b ++ phrase ++ a) :
    before.length ≤ b.length := by
  induction text generalizing before b with
  | nil =>
    have whole := congrArg List.length (eq_append_of_splitFirst? h)
    simp only [List.length_nil, List.length_append] at whole
    omega
  | cons c cs ih =>
    simp only [splitFirst?] at h
    split at h
    · cases h
      exact Nat.zero_le _
    · next start =>
      simp only [Option.map_eq_some_iff, Prod.mk.injEq, Prod.exists] at h
      obtain ⟨before, after, split, rfl, rfl⟩ := h
      cases b with
      | nil =>
        rw [at_b, List.nil_append, strip?_append] at start
        cases start
      | cons d ds =>
        cases at_b
        exact Nat.succ_le_succ (ih split rfl)

/-- A text that does not hold the phrase cannot be split at it. -/
theorem splitFirst?_of_not_infix {phrase text : List Char} (h : ¬phrase <:+: text) :
    splitFirst? phrase text = none := by
  cases split : splitFirst? phrase text with
  | none => rfl
  | some parts => exact absurd ⟨parts.1, parts.2, (eq_append_of_splitFirst? split).symm⟩ h

/-- A text is split at an occurrence of the phrase that none comes before. -/
theorem splitFirst?_of_first {phrase text before after : List Char}
    (at_before : text = before ++ phrase ++ after)
    (first : ∀ b a, text = b ++ phrase ++ a → before.length ≤ b.length) :
    splitFirst? phrase text = some (before, after) := by
  cases split : splitFirst? phrase text with
  | none => exact absurd ⟨before, after, at_before.symm⟩ (not_infix_of_splitFirst? split)
  | some parts =>
    obtain ⟨b, a⟩ := parts
    have at_b := eq_append_of_splitFirst? split
    have same : b.length = before.length :=
      Nat.le_antisymm (length_le_of_splitFirst? split at_before) (first b a at_b)
    rw [at_before, List.append_assoc, List.append_assoc] at at_b
    obtain ⟨rfl, rest⟩ := List.append_inj at_b same.symm
    rw [List.append_cancel_left rest]

/-- A text is split at the first place where a character stands. -/
theorem splitFirst?_of_not_mem {c : Char} {before : List Char} (plain : c ∉ before)
    (after : List Char) : splitFirst? [c] (before ++ c :: after) = some (before, after) := by
  refine splitFirst?_of_first (by simp) fun b a e => ?_
  rw [List.append_assoc] at e
  obtain ⟨more, rfl, -⟩ | ⟨more, before_at, rest⟩ := List.append_eq_append_iff.1 e
  · rw [List.length_append]
    exact Nat.le_add_right ..
  · cases more with
    | nil => simp [before_at]
    | cons d more =>
      cases rest
      exact absurd (before_at ▸ List.mem_append_right b List.mem_cons_self) plain

/-- Every occurrence of the phrase replaced, left to right; nothing is replaced by an empty phrase. -/
def replaceAll (phrase replacement : List Char) : List Char → List Char
  | [] => []
  | c :: cs =>
    if hp : phrase = [] then c :: cs
    else
      match h : strip? phrase (c :: cs) with
      | some rest =>
        have := length_lt_of_strip? hp h
        replacement ++ replaceAll phrase replacement rest
      | none => c :: replaceAll phrase replacement cs
termination_by text => text.length
decreasing_by
  · assumption
  · exact Nat.lt_succ_self cs.length

@[simp] theorem replaceAll_nil (phrase replacement : List Char) :
    replaceAll phrase replacement [] = [] := by
  rw [replaceAll]

/-- An occurrence at the front is replaced. -/
theorem replaceAll_phrase {phrase : List Char} (hp : phrase ≠ []) (replacement rest : List Char) :
    replaceAll phrase replacement (phrase ++ rest) =
      replacement ++ replaceAll phrase replacement rest := by
  obtain ⟨p, ps, rfl⟩ := List.exists_cons_of_ne_nil hp
  have whole : strip? (p :: ps) (p :: (ps ++ rest)) = some rest := strip?_append (p :: ps) rest
  rw [List.cons_append, replaceAll, dif_neg hp]
  split
  · next taken start =>
    rw [whole] at start
    cases start
    rfl
  · next start =>
    rw [whole] at start
    cases start

/-- A character at which the phrase does not start stays. -/
theorem replaceAll_cons {phrase : List Char} {c : Char} {cs : List Char}
    (other : ¬phrase <+: c :: cs) (replacement : List Char) :
    replaceAll phrase replacement (c :: cs) = c :: replaceAll phrase replacement cs := by
  have hp : phrase ≠ [] := by
    rintro rfl
    exact other (List.nil_prefix)
  rw [replaceAll, dif_neg hp]
  split
  · next rest start => exact absurd (isSome_strip?_iff.1 (by rw [start]; rfl)) other
  · rfl

end SoakRig.Text
