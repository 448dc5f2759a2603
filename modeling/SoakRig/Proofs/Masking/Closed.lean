import SoakRig.Proofs.Masking.Pass

/-!
# Closed phrases

A phrase is closed in a line if stars stand behind each of its occurrences, and white space or the
end of the line behind the stars. A pass closes its own phrase, and keeps closed whatever was closed
before; a line in which every phrase is closed is left alone.
-/

namespace SoakRig.Masking

variable {phrase other line after : List Char}

/-- The text begins with a starred value. -/
def Shut (text : List Char) : Prop :=
  ∃ rest, text = stars ++ rest ∧ ∀ c ∈ rest.head?, Text.isBlank c

/-- Every occurrence of the phrase is followed by a starred value. -/
def Closed (phrase line : List Char) : Prop :=
  ∀ before after, line = before ++ phrase ++ after → Shut after

/-- A phrase that stars cannot be a part of. -/
structure Starless (phrase : List Char) : Prop where
  full : phrase ≠ []
  star : '*' ∉ phrase

/-- No sensitive phrase has stars in it. -/
lemma starless_of_mem {phrase : String} (h : phrase ∈ sensitivePhrases) :
    Starless phrase.toList := by
  have all : ∀ phrase ∈ sensitivePhrases, phrase.toList ≠ [] ∧ '*' ∉ phrase.toList := by
    decide +kernel
  exact ⟨(all phrase h).1, (all phrase h).2⟩

/-- The end of a closed line is closed. -/
lemma Closed.right {left : List Char} (closed : Closed phrase (left ++ line)) :
    Closed phrase line := by
  rintro before after rfl
  exact closed (left ++ before) after (by simp only [List.append_assoc])

/-- A phrase without some character does not reach over it. -/
lemma split_at {c : Char} {x y b a : List Char} (h : c ∉ phrase)
    (e : x ++ c :: y = b ++ phrase ++ a) :
    (∃ more, x = b ++ phrase ++ more ∧ a = more ++ c :: y) ∨
      ∃ more, y = more ++ phrase ++ a ∧ b = x ++ c :: more := by
  obtain ⟨tail, phrase_at, c_at⟩ | left := List.append_eq_append_iff.1 e
  · cases tail with
    | nil => exact .inl ⟨[], by simpa using phrase_at.symm, c_at.symm⟩
    | cons d tail =>
      cases c_at
      obtain ⟨start, -, inside⟩ | ⟨start, b_at, c_at⟩ := List.append_eq_append_iff.1 phrase_at
      · exact absurd (inside ▸ List.mem_append_right start List.mem_cons_self) h
      · cases start with
        | nil =>
          have inside : c ∈ [] ++ phrase := c_at ▸ List.mem_cons_self
          exact absurd inside h
        | cons d start =>
          cases c_at
          exact .inr ⟨start, rfl, b_at⟩
  · exact .inl left

/-- A phrase does not begin with a star. -/
lemma Starless.peel {y b a : List Char} (starless : Starless phrase)
    (e : '*' :: y = b ++ phrase ++ a) : ∃ more, b = '*' :: more ∧ y = more ++ phrase ++ a := by
  obtain ⟨more, none, -⟩ | ⟨more, y_at, b_at⟩ := split_at (x := []) starless.star e
  · obtain ⟨c, cs, rfl⟩ := List.exists_cons_of_ne_nil starless.full
    cases b <;> cases none
  · exact ⟨more, b_at, y_at⟩

/-- An occurrence of a phrase is on the one side or on the other side of stars. -/
lemma Starless.split_at_stars {x y b a : List Char} (starless : Starless phrase)
    (e : x ++ stars ++ y = b ++ phrase ++ a) :
    (∃ more, x = b ++ phrase ++ more ∧ a = more ++ stars ++ y) ∨
      ∃ more, y = more ++ phrase ++ a ∧ b = x ++ stars ++ more := by
  rw [List.append_assoc] at e
  obtain ⟨more, x_at, a_at⟩ | ⟨more, y_at, b_at⟩ := split_at starless.star e
  · exact .inl ⟨more, x_at, by rw [a_at, List.append_assoc]; rfl⟩
  · obtain ⟨more1, more_at, y_at1⟩ := starless.peel y_at
    obtain ⟨more2, more_at₁, y_at2⟩ := starless.peel y_at1
    refine .inr ⟨more2, y_at2, ?_⟩
    rw [b_at, more_at, more_at₁, List.append_assoc]
    rfl

/-- What comes after the stars and one more character does not matter. -/
lemma Shut.change {text z z' : List Char} {c : Char} (shut : Shut (text ++ z))
    (last : text.getLast? = some c) (hc : c ≠ '*') : Shut (text ++ z') := by
  obtain ⟨rest, e, blank⟩ := shut
  obtain ⟨tail, stars_at, rest_at⟩ | ⟨tail, text_at, rest_at⟩ := List.append_eq_append_iff.1 e
  · have mem : c ∈ stars := stars_at ▸ List.mem_append_left tail (List.mem_of_getLast? last)
    exact absurd (by simpa [stars] using mem) hc
  · subst text_at
    cases tail with
    | nil =>
      cases last
      exact absurd rfl hc
    | cons d tail =>
      subst rest_at
      exact ⟨d :: tail ++ z', List.append_assoc .., fun c' at_c => blank c' at_c⟩

/-- One round keeps closed what was closed. -/
lemma Closed.round {x : List Char} (starless : Starless phrase) (starless' : Starless other)
    (closed : Closed other (x ++ phrase ++ after)) :
    Closed other (x ++ phrase ++ stars ++ afterValue after) := by
  intro b a e
  obtain ⟨more, x_at, rfl⟩ | ⟨more, rest_at, -⟩ := starless'.split_at_stars e
  · -- an occurrence that ends before the value: at the phrase itself, or earlier
    cases last : more.getLast? with
    | none =>
      cases List.getLast?_eq_none_iff.1 last
      exact ⟨_, rfl, isBlank_of_afterValue⟩
    | some c =>
      have shut : Shut (more ++ after) := closed b _ (by rw [x_at, List.append_assoc])
      -- the text up to the value ends with the phrase
      have at_end : (x ++ phrase).getLast? = some c := by
        rw [x_at, List.getLast?_append, last]
        rfl
      rw [List.getLast?_append_of_ne_nil _ starless.full] at at_end
      rw [List.append_assoc]
      exact shut.change last fun star => starless.star (star ▸ List.mem_of_getLast? at_end)
  · obtain ⟨value, after_at⟩ := exists_value after
    refine closed (x ++ phrase ++ value ++ more) a ?_
    rw [after_at, rest_at]
    simp only [List.append_assoc]

/-- A pass keeps closed what was closed. -/
lemma Closed.pass (starless : Starless phrase) (starless' : Starless other)
    (closed : Closed other line) : Closed other (pass line phrase) := by
  -- an occurrence may begin in what was searched before, so the line is taken with any lead
  have kept : ∀ lead, Closed other (lead ++ line) →
      Closed other (lead ++ Masking.pass line phrase) := by
    refine pass_induct (P := fun line out =>
      ∀ lead, Closed other (lead ++ line) → Closed other (lead ++ out)) starless.full
      (fun _ _ _ h => h) ?_
    intro line before after split ih lead closed
    rw [Text.eq_append_of_splitFirst? split] at closed
    have closed' := Closed.round (x := lead ++ before) starless starless' (by
      simpa only [List.append_assoc] using closed)
    have rest := ih (lead ++ before ++ phrase ++ stars) closed'
    simpa only [List.append_assoc] using rest
  exact kept [] closed

/-- A pass closes its phrase. -/
lemma closed_pass (starless : Starless phrase) : Closed phrase (pass line phrase) := by
  refine pass_induct (P := fun _ out => Closed phrase out) starless.full ?_ ?_
  · rintro line split before after rfl
    exact absurd ⟨before, after, rfl⟩ (Text.not_infix_of_splitFirst? split)
  · intro line before after split ih b a e
    obtain ⟨more, x_at, rfl⟩ | ⟨more, rest_at, -⟩ := starless.split_at_stars e
    · -- no occurrence comes before the one where the line is split, so this is that one
      have first := Text.length_le_of_splitFirst? (b := b) (a := more ++ after) split (by
        rw [Text.eq_append_of_splitFirst? split, x_at, List.append_assoc])
      have lengths := congrArg List.length x_at
      simp only [List.length_append] at lengths
      obtain rfl : more = [] := List.length_eq_zero_iff.1 (by omega)
      refine ⟨_, rfl, fun c at_c => ?_⟩
      rw [head?_pass starless.full] at at_c
      exact isBlank_of_afterValue c at_c
    · exact ih more a rest_at

/-- A pass leaves a line alone in which its phrase is closed. -/
lemma Closed.pass_eq (starless : Starless phrase) (closed : Closed phrase line) :
    Masking.pass line phrase = line := by
  refine pass_induct (P := fun line out => Closed phrase line → out = line) starless.full
    (fun _ _ _ => rfl) ?_ closed
  intro line before after split ih closed
  have line_at := Text.eq_append_of_splitFirst? split
  obtain ⟨rest, rfl, blank⟩ := closed before after line_at
  rw [afterValue_stars blank] at ih ⊢
  rw [line_at, ← List.append_assoc] at closed ⊢
  rw [ih closed.right]

/-- Passes one after another close their phrases. -/
lemma closed_foldl {phrases : List (List Char)} (starless : ∀ phrase ∈ phrases, Starless phrase) :
    ∀ phrase ∈ phrases, Closed phrase (phrases.foldl pass line) := by
  induction phrases using List.reverseRecOn with
  | nil => exact nofun
  | append_singleton phrases last ih =>
    have starless_last : Starless last := starless last (by simp)
    intro phrase mem
    rw [List.foldl_append]
    cases List.mem_append.1 mem with
    | inl mem =>
      have before := ih (fun phrase mem => starless phrase (by simp [mem])) phrase mem
      exact before.pass starless_last (starless phrase (by simp [mem]))
    | inr mem =>
      cases List.mem_singleton.1 mem
      exact closed_pass starless_last

/-- Passes leave a line alone in which their phrases are closed. -/
lemma foldl_eq_of_closed {phrases : List (List Char)}
    (starless : ∀ phrase ∈ phrases, Starless phrase)
    (closed : ∀ phrase ∈ phrases, Closed phrase line) : phrases.foldl pass line = line := by
  induction phrases with
  | nil => rfl
  | cons phrase phrases ih =>
    rw [List.foldl_cons, (closed phrase (by simp)).pass_eq (starless phrase (by simp))]
    exact ih (fun phrase mem => starless phrase (by simp [mem]))
      fun phrase mem => closed phrase (by simp [mem])

/--
In a masked line each of the seventeen sensitive phrases is followed by stars, and the stars by white
space or the end of the line. So masking once more changes nothing.
-/
theorem mask_closed (line : String) :
    (∀ phrase ∈ ["BINANCE_API_KEY=", "BINANCE_API_SECRET=", "API_KEY=", "API_SECRET=", "SECRET=",
        "PASSWORD=", "TOKEN=", "--api-key ", "--api-key=", "--api-secret ", "--api-secret=",
        "--secret ", "--secret=", "--token ", "--token=", "--password ", "--password="],
      Closed phrase.toList (mask line).toList) ∧
      mask (mask line) = mask line := by
  have starless : ∀ phrase ∈ sensitivePhrases.map String.toList, Starless phrase := by
    intro phrase mem
    obtain ⟨text, listed, rfl⟩ := List.mem_map.1 mem
    exact starless_of_mem listed
  have closed : ∀ phrase ∈ sensitivePhrases.map String.toList,
      Closed phrase (maskChars line.toList) := closed_foldl starless
  have text : (mask line).toList = maskChars line.toList := String.toList_ofList
  refine ⟨fun phrase mem => ?_, ?_⟩
  · have listed : phrase ∈ sensitivePhrases := mem
    rw [text]
    exact closed _ (List.mem_map_of_mem listed)
  · rw [mask, text, maskChars, foldl_eq_of_closed starless closed]
    rfl

end SoakRig.Masking
