import SoakRig.Proofs.Masking.Closed

/-!
# Where phrases occur

A sensitive phrase is a word and the mark that ends it, so it never reaches over an equals sign or
white space. Where the front of a line ends with one of them, each occurrence lies in the front or
behind it, and a pass that finds nothing in the front keeps it.
-/

namespace SoakRig.Masking

variable {phrase other front line before after : List Char}

/-- What ends a word: an equals sign or white space. -/
def Stops (c : Char) : Prop := c = '=' ∨ Text.isBlank c

instance (c : Char) : Decidable (Stops c) := inferInstanceAs (Decidable (c = '=' ∨ Text.isBlank c))

/-- The phrase is a word and the mark that ends it. -/
inductive Marked : List Char → Prop
  | intro (word : List Char) (mark : Char) :
    mark = '=' ∨ mark = ' ' → (∀ c ∈ word, ¬Stops c) → Marked (word ++ [mark])

lemma stops_of_mark {mark : Char} (h : mark = '=' ∨ mark = ' ') : Stops mark := by
  rcases h with rfl | rfl
  · exact .inl rfl
  · exact .inr rfl

/-- The phrase is one of those whose values are secret. -/
def Sensitive (phrase : List Char) : Prop := phrase ∈ sensitivePhrases.map String.toList

lemma Sensitive.starless (sensitive : Sensitive phrase) : Starless phrase := by
  obtain ⟨text, listed, rfl⟩ := List.mem_map.1 sensitive
  exact starless_of_mem listed

lemma Sensitive.full (sensitive : Sensitive phrase) : phrase ≠ [] := sensitive.starless.full

/-- Every sensitive phrase is a word and the mark that ends it. -/
lemma Sensitive.marked (sensitive : Sensitive phrase) : Marked phrase := by
  have all : ∀ phrase ∈ sensitivePhrases,
      (phrase.toList.getLast? = some '=' ∨ phrase.toList.getLast? = some ' ') ∧
        phrase.toList.dropLast.all (¬Stops ·) := by
    decide +kernel
  obtain ⟨text, listed, rfl⟩ := List.mem_map.1 sensitive
  obtain ⟨last, plain⟩ := all text listed
  have word : ∀ c ∈ text.toList.dropLast, ¬Stops c := by simpa using plain
  obtain ⟨mark, last, is_mark⟩ :
      ∃ mark, text.toList.getLast? = some mark ∧ (mark = '=' ∨ mark = ' ') := by
    rcases last with last | last
    · exact ⟨_, last, .inl rfl⟩
    · exact ⟨_, last, .inr rfl⟩
  rw [← List.dropLast_append_getLast? mark last]
  exact .intro _ mark is_mark word

/-- The last character of a phrase ends a word. -/
lemma Marked.stops (marked : Marked phrase) : ∃ mark, phrase.getLast? = some mark ∧ Stops mark := by
  cases marked with
  | intro word mark is_mark _ => exact ⟨mark, by simp, stops_of_mark is_mark⟩

/-- An occurrence ends with what ends a word, or begins behind it. -/
lemma Marked.split_at_stop {c : Char} {x y b a : List Char} (marked : Marked phrase)
    (stop : Stops c) (e : x ++ c :: y = b ++ phrase ++ a) :
    (∃ more, x ++ [c] = b ++ phrase ++ more ∧ a = more ++ y) ∨
      ∃ more, y = more ++ phrase ++ a ∧ b = x ++ c :: more := by
  cases marked with
  | intro word mark _ plain =>
    have outside : c ∉ word := fun inside => plain c inside stop
    rw [← List.append_assoc, List.append_assoc _ [mark]] at e
    obtain ⟨more, x_at, rest⟩ | ⟨more, y_at, b_at⟩ := split_at outside e
    · -- behind the word comes its mark, which may be the stop itself
      cases more with
      | nil =>
        cases rest
        exact .inl ⟨[], by rw [x_at]; simp, rfl⟩
      | cons d more =>
        cases rest
        exact .inl ⟨more ++ [c], by rw [x_at]; simp, by simp⟩
    · exact .inr ⟨more, by rw [y_at]; simp, b_at⟩

/-- The text ends with what ends a word. -/
def Ended (text : List Char) : Prop := ∃ c, text.getLast? = some c ∧ Stops c

/-- A text that ends with a phrase ends with what ends a word. -/
lemma Marked.ended (marked : Marked phrase) (text : List Char) : Ended (text ++ phrase) := by
  obtain ⟨mark, last, stops⟩ := marked.stops
  refine ⟨mark, ?_, stops⟩
  rw [List.getLast?_append, last]
  rfl

/-- An occurrence lies in a front that ends with what ends a word, or behind it. -/
lemma Marked.split_behind {y b a : List Char} (marked : Marked phrase) (ended : Ended front)
    (e : front ++ y = b ++ phrase ++ a) :
    (∃ more, front = b ++ phrase ++ more ∧ a = more ++ y) ∨
      ∃ more, y = more ++ phrase ++ a ∧ b = front ++ more := by
  obtain ⟨c, last, stops⟩ := ended
  obtain ⟨x, rfl⟩ := List.getLast?_eq_some_iff.1 last
  rw [List.append_assoc] at e
  obtain inside | ⟨more, y_at, b_at⟩ := marked.split_at_stop stops e
  · exact .inl inside
  · exact .inr ⟨more, y_at, by rw [b_at]; simp⟩

/-- An occurrence that does not begin in the front lies behind it. -/
lemma exists_behind {y b a : List Char} (e : front ++ y = b ++ phrase ++ a)
    (behind : front.length ≤ b.length) : ∃ more, b = front ++ more ∧ y = more ++ phrase ++ a := by
  rw [List.append_assoc] at e
  obtain ⟨more, rfl⟩ : front <+: b :=
    List.prefix_of_prefix_length_le (List.prefix_append _ y) ⟨phrase ++ a, e.symm⟩ behind
  refine ⟨more, rfl, ?_⟩
  rw [List.append_assoc, List.append_cancel_left_eq] at e
  rw [e, List.append_assoc]

/-- A pass keeps a front in which no occurrence begins. -/
lemma pass_behind {y : List Char} (full : phrase ≠ [])
    (behind : ∀ b a, front ++ y = b ++ phrase ++ a → front.length ≤ b.length) :
    pass (front ++ y) phrase = front ++ pass y phrase := by
  cases split : Text.splitFirst? phrase y with
  | none =>
    have nowhere : ¬phrase <:+: front ++ y := by
      rintro ⟨b, a, e⟩
      obtain ⟨more, -, y_at⟩ := exists_behind e.symm (behind b a e.symm)
      exact Text.not_infix_of_splitFirst? split ⟨more, a, y_at.symm⟩
    rw [pass_of_none split, pass_of_none (Text.splitFirst?_of_not_infix nowhere)]
  | some parts =>
    obtain ⟨b, a⟩ := parts
    have y_at := Text.eq_append_of_splitFirst? split
    have first : Text.splitFirst? phrase (front ++ y) = some (front ++ b, a) := by
      refine Text.splitFirst?_of_first (by rw [y_at]; simp only [List.append_assoc]) ?_
      intro b' a' e
      obtain ⟨more, rfl, y_at'⟩ := exists_behind e (behind b' a' e)
      have := Text.length_le_of_splitFirst? split y_at'
      simp only [List.length_append]
      omega
    rw [pass_of_some full first, pass_of_some full split]
    simp only [List.append_assoc]

/-- A pass stars out the value behind an occurrence that none comes before. -/
lemma pass_first {y : List Char} (full : phrase ≠ [])
    (first : ∀ b a, front ++ phrase ++ y = b ++ phrase ++ a → front.length ≤ b.length) :
    pass (front ++ phrase ++ y) phrase =
      front ++ phrase ++ stars ++ pass (afterValue y) phrase :=
  pass_of_some full (Text.splitFirst?_of_first rfl first)

end SoakRig.Masking
