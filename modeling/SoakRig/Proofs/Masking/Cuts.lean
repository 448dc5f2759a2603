import SoakRig.Proofs.Masking.Occurrence

/-!
# What masking keeps

A masked line is the line with some values cut out and stars in their place. Each value stands behind
a sensitive phrase, and behind each value the line goes on with white space or ends. `Kept` relates a
line to what the passes so far have made of it; a round of a pass only ever joins what it cuts out to
what was cut out before, so the relation is kept.
-/

namespace SoakRig.Masking

variable {phrase behind line masked x y : List Char}

/-- The text ends with a sensitive phrase. -/
def EndsSecret (text : List Char) : Prop := ∃ phrase, Sensitive phrase ∧ phrase <:+ text

/--
The rest of a line and what it was masked to, behind the beginning of the line: character by
character the same, but for values that gave way to stars.
-/
inductive Kept : List Char → List Char → List Char → Prop
  | done {behind : List Char} : Kept behind [] []
  | keep {behind : List Char} (c : Char) {rest masked : List Char} :
    Kept (behind ++ [c]) rest masked → Kept behind (c :: rest) (c :: masked)
  | star {behind : List Char} (value : List Char) {rest masked : List Char} :
    EndsSecret behind → (∀ c ∈ masked.head?, Text.isBlank c) →
    Kept (behind ++ value) rest masked → Kept behind (value ++ rest) (stars ++ masked)

namespace Kept

lemma refl (behind line : List Char) : Kept behind line line := by
  induction line generalizing behind with
  | nil => exact .done
  | cons c line ih => exact .keep c (ih (behind ++ [c]))

/-- A text without stars is kept as it is. -/
lemma plain_front (plain : '*' ∉ x) (kept : Kept behind line (x ++ y)) :
    ∃ rest, line = x ++ rest ∧ Kept (behind ++ x) rest y := by
  induction x generalizing behind line with
  | nil => exact ⟨line, rfl, by simpa using kept⟩
  | cons c x ih =>
    generalize e : c :: x ++ y = masked at kept
    cases kept with
    | done => cases e
    | keep d kept =>
      cases e
      obtain ⟨rest, line_at, kept'⟩ := ih (fun mem => plain (by simp [mem])) kept
      exact ⟨rest, by rw [line_at]; rfl, by simpa using kept'⟩
    | star value =>
      obtain rfl : c = '*' := by simpa [stars] using congrArg List.head? e
      exact absurd List.mem_cons_self plain

lemma cons_front {rest masked : List Char} (kept : Kept (behind ++ x) rest masked) :
    Kept behind (x ++ rest) (x ++ masked) := by
  induction x generalizing behind with
  | nil => simpa using kept
  | cons c x ih => exact .keep c (ih (by simpa using kept))

/--
Behind an occurrence of a phrase in the masked text the line goes on, and whatever the rest of it is
masked to may take the place of what it was masked to.
-/
lemma at_phrase (sensitive : Sensitive phrase) (kept : Kept behind line (x ++ phrase ++ y)) :
    ∃ before rest, EndsSecret before ∧ Kept before rest y ∧
      ∀ y', Kept before rest y' → Kept behind line (x ++ phrase ++ y') := by
  generalize e : x ++ phrase ++ y = masked at kept
  induction kept generalizing x with
  | done =>
    have := sensitive.full
    simp_all
  | @keep behind c rest masked kept ih =>
    cases x with
    | nil =>
      -- the occurrence begins here, and stars do not break it
      have whole : Kept behind (c :: rest) (phrase ++ y) := by
        rw [← List.nil_append phrase, e]
        exact .keep c kept
      obtain ⟨rest', line_at, kept⟩ := plain_front sensitive.starless.star whole
      refine ⟨behind ++ phrase, rest', ⟨phrase, sensitive, List.suffix_append ..⟩, kept, ?_⟩
      intro y' kept'
      rw [line_at]
      exact cons_front kept'
    | cons d x =>
      cases e
      obtain ⟨before, rest', ends, kept, replace⟩ := ih rfl
      exact ⟨before, rest', ends, kept, fun y' kept' => .keep c (replace y' kept')⟩
  | @star behind value rest masked ends blank kept ih =>
    -- the occurrence lies behind the stars
    obtain ⟨more, none, -⟩ | ⟨more, masked_at, rfl⟩ :=
      sensitive.starless.split_at_stars (x := []) (by simpa using e.symm)
    · have := sensitive.full
      simp_all
    · obtain ⟨before, rest', ends', kept', replace⟩ := ih masked_at.symm
      refine ⟨before, rest', ends', kept', fun y' kept' => ?_⟩
      have goes_on := Kept.star value ends (fun c at_c => blank c ?_) (replace y' kept')
      · simpa using goes_on
      · -- the masked text still goes on with the same character
        obtain ⟨d, ds, rfl⟩ := List.exists_cons_of_ne_nil sensitive.full
        rw [masked_at]
        cases more <;> exact at_c

/-- What the end of a masked text was masked from is the end of the line. -/
lemma drop (blank : ∀ c ∈ y.head?, Text.isBlank c) (kept : Kept behind line (x ++ y)) :
    ∃ value rest, line = value ++ rest ∧ Kept (behind ++ value) rest y := by
  generalize e : x ++ y = masked at kept
  induction kept generalizing x with
  | @done behind =>
    obtain ⟨rfl, rfl⟩ := List.append_eq_nil_iff.1 e
    exact ⟨[], [], rfl, .done⟩
  | @keep behind c rest masked kept ih =>
    cases x with
    | nil =>
      refine ⟨[], c :: rest, rfl, ?_⟩
      rw [List.nil_append] at e
      rw [e, List.append_nil]
      exact .keep c kept
    | cons d x =>
      cases e
      obtain ⟨value, rest', rest_at, kept'⟩ := ih rfl
      exact ⟨c :: value, rest', by rw [rest_at]; rfl, by simpa using kept'⟩
  | @star behind value rest masked ends blank' kept ih =>
    -- white space does not begin within stars
    obtain ⟨more, stars_at, y_at⟩ | ⟨more, x_at, rest_at⟩ := List.append_eq_append_iff.1 e
    · cases more with
      | nil =>
        obtain ⟨value', rest', rest_at, kept'⟩ := ih (x := []) y_at
        exact ⟨value ++ value', rest', by simp [rest_at], by simpa using kept'⟩
      | cons c more =>
        have star : c ∈ stars := stars_at ▸ by simp
        obtain rfl : c = '*' := by simpa [stars] using star
        exact absurd (blank '*' (by rw [y_at]; rfl)) (by decide)
    · obtain ⟨value', rest', line_at, kept'⟩ := ih rest_at.symm
      exact ⟨value ++ value', rest', by simp [line_at], by simpa using kept'⟩

/-- One round of a pass cuts out one more value. -/
lemma round (sensitive : Sensitive phrase) (kept : Kept behind line (x ++ phrase ++ y)) :
    Kept behind line (x ++ phrase ++ stars ++ afterValue y) := by
  obtain ⟨before, rest, ends, kept, replace⟩ := kept.at_phrase sensitive
  obtain ⟨value, y_at⟩ := exists_value y
  rw [y_at] at kept
  obtain ⟨cut, rest, rfl, kept'⟩ := kept.drop isBlank_of_afterValue
  rw [List.append_assoc]
  exact replace _ (.star cut ends isBlank_of_afterValue kept')

/-- A pass keeps what is not a value. -/
lemma pass (sensitive : Sensitive phrase) (kept : Kept behind line masked) :
    Kept behind line (pass masked phrase) := by
  -- the value of a phrase may begin in what was searched before, so the text is taken with any lead
  have all : ∀ lead, Kept behind line (lead ++ masked) →
      Kept behind line (lead ++ Masking.pass masked phrase) := by
    refine pass_induct (P := fun masked out =>
      ∀ lead, Kept behind line (lead ++ masked) → Kept behind line (lead ++ out)) sensitive.full
      (fun _ _ _ kept => kept) ?_
    intro masked before after split ih lead kept
    rw [Text.eq_append_of_splitFirst? split] at kept
    have cut := Kept.round (x := lead ++ before) sensitive (by simpa using kept)
    have rest := ih (lead ++ before ++ phrase ++ stars) cut
    simpa using rest
  exact all [] kept

lemma foldl {phrases : List (List Char)} (all : ∀ phrase ∈ phrases, Sensitive phrase)
    (kept : Kept behind line masked) : Kept behind line (phrases.foldl Masking.pass masked) := by
  induction phrases generalizing masked with
  | nil => exact kept
  | cons phrase phrases ih =>
    exact ih (fun phrase mem => all phrase (by simp [mem])) (kept.pass (all phrase (by simp)))

end Kept

/-- A value that gave way to stars, and the text that was kept behind it. -/
structure Cut where
  value : List Char
  kept : List Char

namespace Cut

/-- The end of a line with its values. -/
def written (cuts : List Cut) : List Char := cuts.flatMap fun cut => cut.value ++ cut.kept

/-- The end of a line with stars in place of its values. -/
def starred (cuts : List Cut) : List Char := cuts.flatMap fun cut => stars ++ cut.kept

/--
Another value may stand behind the cut: the kept text ends with a sensitive phrase, or it is the
blank that ends a phrase which begins in the value.
-/
def Leads (cut : Cut) : Prop :=
  EndsSecret cut.kept ∨ cut.kept = [' '] ∧ EndsSecret (cut.value ++ cut.kept)

end Cut

/--
A line with some values in it, and the same line with stars in their place. Behind each value the
line goes on with white space, and on to the next value if there is one.
-/
structure Starred (leads : Cut → Prop) (line masked front : List Char) (cuts : List Cut) :
    Prop where
  line_eq : line = front ++ Cut.written cuts
  masked_eq : masked = front ++ Cut.starred cuts
  blank : ∀ cut ∈ cuts, ∀ c ∈ cut.kept.head?, Text.isBlank c
  leads : ∀ cut ∈ cuts.dropLast, cut.kept ≠ [] ∧ leads cut

/-- What is kept between two values ends with a phrase, or with the end of one. -/
lemma leads_of_ends {before value kept : List Char} (ends : EndsSecret before) (full : kept ≠ [])
    (blank : ∀ c ∈ kept.head?, Text.isBlank c) (ends' : EndsSecret (before ++ (value ++ kept))) :
    Cut.Leads ⟨value, kept⟩ := by
  obtain ⟨first, sensitive_first, b, rfl⟩ := ends
  obtain ⟨phrase, sensitive, a, text_at⟩ := ends'
  obtain ⟨c, more, rfl⟩ := List.exists_cons_of_ne_nil full
  have stop : Stops c := .inr (blank c rfl)
  -- the phrase begins behind the one that the text in front of the value ends with
  obtain ⟨_, -, none⟩ | ⟨left, value_at, -⟩ := sensitive.marked.split_behind (a := [])
    (sensitive_first.marked.ended b) (by simpa using text_at.symm)
  · simp at none
  rw [List.append_nil] at value_at
  obtain ⟨rest, value_end, none⟩ | ⟨left', more_at, -⟩ :=
    sensitive.marked.split_at_stop (a := []) stop (by simpa using value_at)
  · obtain ⟨rfl, rfl⟩ := List.append_eq_nil_iff.1 none.symm
    refine .inr ⟨?_, phrase, sensitive, left, value_at.symm⟩
    obtain ⟨word, mark, is_mark, -⟩ := sensitive.marked
    obtain rfl : c = mark := by simpa using congrArg List.getLast? value_end
    rcases is_mark with rfl | rfl
    · exact absurd (blank _ rfl) (by decide)
    · rfl
  · exact .inl ⟨phrase, sensitive, c :: left', by rw [more_at]; simp⟩

/-- What a line was masked to is the line with stars in place of values. -/
lemma Kept.starred (kept : Kept behind line masked) :
    ∃ front cuts, Starred Cut.Leads line masked front cuts ∧
      (cuts ≠ [] → EndsSecret (behind ++ front)) := by
  induction kept with
  | done => exact ⟨[], [], ⟨rfl, rfl, nofun, nofun⟩, nofun⟩
  | keep c _ ih =>
    obtain ⟨front, cuts, starred, ends⟩ := ih
    refine ⟨c :: front, cuts, ⟨?_, ?_, starred.blank, starred.leads⟩, by simpa using ends⟩
    · rw [starred.line_eq]
      rfl
    · rw [starred.masked_eq]
      rfl
  | @star behind value rest masked ends blank _ ih =>
    obtain ⟨front, cuts, starred, ends'⟩ := ih
    have blank_front : ∀ c ∈ front.head?, Text.isBlank c := by
      intro c at_c
      refine blank c ?_
      rw [starred.masked_eq, List.head?_append]
      simp_all
    refine ⟨[], ⟨value, front⟩ :: cuts, ⟨?_, ?_, ?_, ?_⟩, fun _ => by simpa using ends⟩
    · simp [Cut.written, starred.line_eq]
    · simp [Cut.starred, starred.masked_eq]
    · simpa using ⟨blank_front, starred.blank⟩
    · intro cut mem
      cases cuts with
      | nil => simp at mem
      | cons next cuts =>
        obtain rfl | mem := List.mem_cons.1 mem
        · -- stars do not begin with white space, so text is kept between two values
          have full : front ≠ [] := by
            rintro rfl
            exact absurd (blank '*' (by rw [starred.masked_eq]; rfl)) (by decide)
          exact ⟨full, leads_of_ends ends full blank_front (by simpa using ends' (by simp))⟩
        · exact starred.leads cut mem

/--
Masking changes nothing but values: stars take the place of some stretches of the line. The text in
front of the first ends with a sensitive phrase, the text behind each begins with white space if
there is any, and the text between two ends with a sensitive phrase, or is the blank of a flag that
was itself the value in front of it.
-/
theorem mask_keeps (line : String) :
    ∃ front cuts, Starred Cut.Leads line.toList (mask line).toList front cuts ∧
      (cuts ≠ [] → EndsSecret front) := by
  have kept : Kept [] line.toList (maskChars line.toList) :=
    .foldl (fun _ sensitive => sensitive) (.refl [] line.toList)
  have text : (mask line).toList = maskChars line.toList := String.toList_ofList
  rw [text]
  exact kept.starred

/--
A flag may itself be the value of a flag, and its value is starred all the same: then nothing but the
blank between them is kept, and no phrase ends there.
-/
theorem mask_keeps_flag_as_value :
    ¬∃ front cuts, Starred (fun cut => EndsSecret cut.kept) "--password --token v".toList
      (mask "--password --token v").toList front cuts ∧ (cuts ≠ [] → EndsSecret front) := by
  rintro ⟨front, cuts, starred, -⟩
  have masked : (mask "--password --token v").toList = "--password *** ***".toList := by
    decide +kernel
  have line_at := starred.line_eq
  have masked_at := masked ▸ starred.masked_eq
  have plain : '*' ∉ front ++ Cut.written cuts := by
    rw [← line_at]
    decide
  cases cuts with
  | nil => exact absurd (line_at.trans masked_at.symm) (by decide)
  | cons cut cuts =>
    -- what is kept in front of the first stars is all that comes before a star
    have front_at : "--password ".toList = front := by
      have until_star := congrArg (List.takeWhile (· ≠ '*')) masked_at
      rw [List.takeWhile_append_of_pos fun c mem => by
        have : c ≠ '*' := by
          rintro rfl
          exact plain (List.mem_append_left _ mem)
        simpa using this] at until_star
      have none : List.takeWhile (· ≠ '*') (Cut.starred (cut :: cuts)) = [] := rfl
      rw [none, List.append_nil] at until_star
      exact until_star
    subst front_at
    have rest_at : " ***".toList = cut.kept ++ Cut.starred cuts := by
      have behind_stars := congrArg (List.drop 14) masked_at
      simpa [Cut.starred, stars] using behind_stars
    cases cuts with
    | nil =>
      have kept_at : " ***".toList = cut.kept := by simpa [Cut.starred] using rest_at
      refine plain (List.mem_append_right _ ?_)
      simp [Cut.written, ← kept_at]
    | cons next cuts =>
      -- only one character is left to be kept between the two values
      obtain ⟨-, phrase, sensitive, short⟩ := starred.leads cut List.mem_cons_self
      have long : ∀ phrase ∈ sensitivePhrases.map String.toList, 1 < phrase.length := by
        decide +kernel
      have lengths : 4 = (cut.kept ++ Cut.starred (next :: cuts)).length :=
        congrArg List.length rest_at
      have := long phrase sensitive
      have := short.length_le
      simp [Cut.starred, stars] at lengths
      omega

end SoakRig.Masking
