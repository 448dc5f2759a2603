import SoakRig.Proofs.Masking.Occurrence

/-!
# Secrets on a line

A secret is a clean text, a sensitive phrase and a value that ends where the rest of the line
begins. However the passes follow one another, together they star out the value, keep the text and
the phrase, and mask the rest as if it stood alone. The invariant of the passes is `Apart`: the value,
or the stars in its place, stays a value of its own whatever a pass makes of the rest.
-/

namespace SoakRig.Masking

variable {phrase other lead value rest rest' : List Char}

/-- A value stays a value of its own if the rest goes on with the same character. -/
lemma Scanner.split_congr {s : Scanner} (ends : s.split (value ++ rest) = (value, rest))
    (head : rest'.head? = rest.head?) : s.split (value ++ rest') = (value, rest') := by
  induction value generalizing s with
  | nil =>
    cases rest with
    | nil =>
      cases rest' with
      | nil => rfl
      | cons c cs => cases head
    | cons c cs =>
      cases rest' with
      | nil => cases head
      | cons d ds =>
        cases head
        rw [List.nil_append, split] at ends ⊢
        cases next : s.next? c with
        | none => rfl
        | some s' =>
          rw [next] at ends
          cases ends
  | cons c value ih =>
    rw [List.cons_append, split] at ends ⊢
    cases next : s.next? c with
    | none =>
      rw [next] at ends
      cases ends
    | some s' =>
      simp only [next, Prod.mk.injEq, List.cons.injEq, true_and] at ends
      have := ih (s := s') (Prod.ext ends.1 ends.2)
      simp only [this]

/-- The value ends where the rest begins, and no sensitive phrase begins in it. -/
structure Apart (value rest : List Char) : Prop where
  ends : Scanner.start.split (value ++ rest) = (value, rest)
  behind : ∀ {phrase}, Sensitive phrase → ∀ b a, value ++ rest = b ++ phrase ++ a →
    value.length ≤ b.length

namespace Apart

/-- What follows a value of its own is empty or begins with white space. -/
lemma blank (apart : Apart value rest) : ∀ c ∈ rest.head?, Text.isBlank c := by
  have ends : ∀ c ∈ (Scanner.start.split (value ++ rest)).2.head?, Text.isBlank c :=
    Scanner.isBlank_of_split
  rwa [apart.ends] at ends

/-- What follows the value does not matter, as long as it goes on with the same character. -/
lemma congr (apart : Apart value rest) (head : rest'.head? = rest.head?) : Apart value rest' := by
  refine ⟨Scanner.split_congr apart.ends head, ?_⟩
  intro phrase sensitive b a e
  cases rest' with
  | nil =>
    cases rest with
    | nil => exact apart.behind sensitive b a e
    | cons c cs => cases head
  | cons c cs =>
    cases rest with
    | nil => cases head
    | cons d ds =>
      cases head
      have stop : Stops c := .inr (apart.blank c rfl)
      -- the phrase does not reach over the white space, so it is there whatever follows
      obtain ⟨more, value_at, -⟩ | ⟨more, -, rfl⟩ := sensitive.marked.split_at_stop stop e
      · refine apart.behind sensitive b (more ++ ds) ?_
        rw [← List.append_assoc, ← value_at, List.append_assoc]
        rfl
      · simp

/-- Stars are a value of their own. -/
lemma starred (blank : ∀ c ∈ rest.head?, Text.isBlank c) : Apart stars rest := by
  refine ⟨?_, ?_⟩
  · have after := afterValue_stars blank
    have whole := Scanner.split_append .start (stars ++ rest)
    rw [afterValue] at after
    rw [after, List.append_cancel_right_eq] at whole
    exact Prod.ext whole after
  · intro phrase sensitive b a e
    obtain ⟨more, none, -⟩ | ⟨more, -, rfl⟩ :=
      sensitive.starless.split_at_stars (x := []) (y := rest) (by simpa using e)
    · simp [sensitive.full] at none
    · simp

end Apart

/-- No sensitive phrase occurs in the text. -/
def Clean (text : List Char) : Prop := ∀ {phrase}, Sensitive phrase → ¬phrase <:+: text

lemma clean_of_listed {text : List Char}
    (none : ∀ phrase ∈ sensitivePhrases, ¬phrase.toList <:+: text) : Clean text := by
  intro phrase sensitive
  obtain ⟨phrase, listed, rfl⟩ := List.mem_map.1 sensitive
  exact none phrase listed

instance (text : List Char) : Decidable (Clean text) :=
  decidable_of_iff (∀ phrase ∈ sensitivePhrases, ¬phrase.toList <:+: text)
    ⟨clean_of_listed, fun clean _ listed => clean (List.mem_map_of_mem listed)⟩

/-- A phrase behind a clean text ends where that phrase ends, or it begins behind the value. -/
lemma occurrence_of_secret {b a : List Char} (clean : Clean lead) (known : Sensitive phrase)
    (apart : Apart value rest) (sensitive : Sensitive other)
    (e : lead ++ phrase ++ (value ++ rest) = b ++ other ++ a) :
    (lead ++ phrase = b ++ other ∧ a = value ++ rest) ∨
      (lead ++ phrase ++ value).length ≤ b.length := by
  obtain ⟨more, front_at, rfl⟩ | ⟨more, rest_at, rfl⟩ :=
    sensitive.marked.split_behind (known.marked.ended lead) e
  · cases known.marked with
    | intro word mark _ plain =>
      cases List.eq_nil_or_concat more with
      | inl none =>
        subst none
        exact .inl ⟨by simpa using front_at, rfl⟩
      | inr some =>
        -- a phrase that ended earlier would end within the clean text, for a word has no mark
        obtain ⟨more, last, rfl⟩ := some
        rw [← List.append_assoc, List.concat_eq_append, ← List.append_assoc] at front_at
        have shorter := (List.append_inj' front_at rfl).1
        obtain ⟨t, other_at, word_at⟩ | ⟨t, lead_at, -⟩ := List.append_eq_append_iff.1 shorter
        · obtain ⟨c, last_c, stop⟩ := sensitive.marked.ended b
          rw [other_at] at last_c
          cases List.eq_nil_or_concat t with
          | inl none =>
            subst none
            rw [List.append_nil] at other_at
            exact absurd ⟨b, [], by simpa using other_at⟩ (clean sensitive)
          | inr some =>
            obtain ⟨t, d, rfl⟩ := some
            simp only [List.concat_eq_append, ← List.append_assoc, List.getLast?_concat,
              Option.some.injEq] at last_c
            subst last_c
            exact absurd stop (plain d (by rw [word_at]; simp))
        · exact absurd ⟨b, t, lead_at.symm⟩ (clean sensitive)
  · have := apart.behind sensitive more a rest_at
    refine .inr ?_
    simp only [List.length_append]
    omega

/-- A pass whose phrase ends where the phrase of the secret ends stars out the value. -/
lemma pass_secret (clean : Clean lead) (known : Sensitive phrase) (apart : Apart value rest)
    (sensitive : Sensitive other) (ending : other <:+ lead ++ phrase) :
    pass (lead ++ phrase ++ (value ++ rest)) other =
      lead ++ phrase ++ (stars ++ pass rest other) := by
  obtain ⟨x, front_at⟩ := ending
  have first : ∀ b a, x ++ other ++ (value ++ rest) = b ++ other ++ a → x.length ≤ b.length := by
    rw [front_at]
    intro b a e
    have lengths := congrArg List.length front_at
    obtain ⟨same, -⟩ | later := occurrence_of_secret clean known apart sensitive e
    · have := congrArg List.length same
      simp only [List.length_append] at this lengths
      omega
    · simp only [List.length_append] at later lengths
      omega
  have after : afterValue (value ++ rest) = rest := congrArg Prod.snd apart.ends
  rw [← front_at, pass_first sensitive.full first, after]
  simp only [List.append_assoc]

/-- A pass of any other phrase keeps the value. -/
lemma pass_other (clean : Clean lead) (known : Sensitive phrase) (apart : Apart value rest)
    (sensitive : Sensitive other) (elsewhere : ¬other <:+ lead ++ phrase) :
    pass (lead ++ phrase ++ (value ++ rest)) other =
      lead ++ phrase ++ (value ++ pass rest other) := by
  rw [← List.append_assoc, ← List.append_assoc]
  refine pass_behind sensitive.full fun b a e => ?_
  rw [List.append_assoc] at e
  obtain ⟨same, -⟩ | later := occurrence_of_secret clean known apart sensitive e
  · exact absurd ⟨b, same.symm⟩ elsewhere
  · exact later

/-- A pass over the rest leaves the value a value of its own. -/
lemma Apart.pass (apart : Apart value rest) (sensitive : Sensitive other) :
    Apart value (pass rest other) :=
  apart.congr (head?_pass sensitive.full)

section Passes

variable {phrases : List (List Char)} (all : ∀ other ∈ phrases, Sensitive other)
  (clean : Clean lead) (known : Sensitive phrase)
include all clean known

/-- Passes keep the stars of a secret and mask the rest. -/
lemma foldl_starred (blank : ∀ c ∈ rest.head?, Text.isBlank c) :
    phrases.foldl pass (lead ++ phrase ++ (stars ++ rest)) =
      lead ++ phrase ++ (stars ++ phrases.foldl pass rest) := by
  induction phrases generalizing rest with
  | nil => rfl
  | cons other phrases ih =>
    have sensitive : Sensitive other := all other (by simp)
    have apart : Apart stars rest := .starred blank
    have step : pass (lead ++ phrase ++ (stars ++ rest)) other =
        lead ++ phrase ++ (stars ++ pass rest other) := by
      by_cases ending : other <:+ lead ++ phrase
      · exact pass_secret clean known apart sensitive ending
      · exact pass_other clean known apart sensitive ending
    rw [List.foldl_cons, List.foldl_cons, step]
    exact ih (fun other mem => all other (by simp [mem])) (apart.pass sensitive).blank

/-- Passes star out the value of a secret whose phrase is among theirs, and mask the rest. -/
lemma foldl_secret (mem : phrase ∈ phrases) (apart : Apart value rest) :
    phrases.foldl pass (lead ++ phrase ++ (value ++ rest)) =
      lead ++ phrase ++ (stars ++ phrases.foldl pass rest) := by
  induction phrases generalizing rest with
  | nil => cases mem
  | cons other phrases ih =>
    have sensitive : Sensitive other := all other (by simp)
    have others : ∀ other ∈ phrases, Sensitive other := fun other mem => all other (by simp [mem])
    rw [List.foldl_cons, List.foldl_cons]
    by_cases ending : other <:+ lead ++ phrase
    · rw [pass_secret clean known apart sensitive ending]
      exact foldl_starred others clean known (apart.pass sensitive).blank
    · rw [pass_other clean known apart sensitive ending]
      cases List.mem_cons.1 mem with
      | inl same => exact absurd (same ▸ List.suffix_append lead phrase) ending
      | inr mem => exact ih others mem (apart.pass sensitive)

end Passes

/-- Masking stars out the value of a secret and masks the rest as if it stood alone. -/
lemma maskChars_secret (clean : Clean lead) (known : Sensitive phrase) (apart : Apart value rest) :
    maskChars (lead ++ phrase ++ (value ++ rest)) = lead ++ phrase ++ (stars ++ maskChars rest) :=
  foldl_secret (fun _ mem => mem) clean known known apart

/-- How many bytes the value at the front of a text takes. -/
def valueEnd (text : String) : Nat :=
  (String.ofList (Scanner.start.split text.toList).1).utf8ByteSize

lemma eq_nil_of_utf8ByteSize {cs : List Char} (none : (String.ofList cs).utf8ByteSize = 0) :
    cs = [] := by
  have := congrArg String.toList (String.utf8ByteSize_eq_zero_iff.1 none)
  rwa [String.toList_ofList] at this

/-- Where a text is cut is known from the bytes in front of the cut. -/
lemma append_inj_of_utf8ByteSize {front back value rest : List Char}
    (whole : front ++ back = value ++ rest)
    (size : (String.ofList front).utf8ByteSize = (String.ofList value).utf8ByteSize) :
    front = value ∧ back = rest := by
  obtain ⟨more, rfl, rfl⟩ | ⟨more, rfl, rfl⟩ := List.append_eq_append_iff.1 whole
  · rw [String.ofList_append, String.utf8ByteSize_append] at size
    obtain rfl : more = [] := eq_nil_of_utf8ByteSize (by omega)
    simp
  · rw [String.ofList_append, String.utf8ByteSize_append] at size
    obtain rfl : more = [] := eq_nil_of_utf8ByteSize (by omega)
    simp

/-- A value that takes as many bytes as the text in front of the rest is that text. -/
lemma split_of_valueEnd {value rest : String}
    (ends : valueEnd (value ++ rest) = value.utf8ByteSize) :
    Scanner.start.split (value.toList ++ rest.toList) = (value.toList, rest.toList) := by
  have whole := Scanner.split_append .start (value.toList ++ rest.toList)
  rw [valueEnd, String.toList_append] at ends
  obtain ⟨front, back⟩ := append_inj_of_utf8ByteSize whole (by rw [ends, String.ofList_toList])
  exact Prod.ext front back

/-- A text, a phrase and a value on a line. -/
structure Secret where
  lead : String
  phrase : String
  value : String

namespace Secret

/-- The line that goes on with the rest. -/
def shown (s : Secret) (rest : String) : String := s.lead ++ s.phrase ++ s.value ++ rest

/-- The line with stars in place of the value. -/
def hidden (s : Secret) (rest : String) : String := s.lead ++ s.phrase ++ "***" ++ rest

/--
The phrase is sensitive, none occurs before it, the value ends where the rest begins, and no
sensitive phrase begins in the value.
-/
structure Stands (s : Secret) (rest : String) : Prop where
  listed : s.phrase ∈ sensitivePhrases
  clean : ∀ phrase ∈ sensitivePhrases, ¬phrase.toList <:+: s.lead.toList
  ends : valueEnd (s.value ++ rest) = s.value.utf8ByteSize
  behind : ∀ phrase ∈ sensitivePhrases, ∀ k < s.value.length,
    ¬phrase.toList <+: (s.value ++ rest).toList.drop k

instance (s : Secret) (rest : String) : Decidable (s.Stands rest) :=
  decidable_of_iff
    (s.phrase ∈ sensitivePhrases ∧
      (∀ phrase ∈ sensitivePhrases, ¬phrase.toList <:+: s.lead.toList) ∧
      valueEnd (s.value ++ rest) = s.value.utf8ByteSize ∧
      ∀ phrase ∈ sensitivePhrases, ∀ k < s.value.length,
        ¬phrase.toList <+: (s.value ++ rest).toList.drop k)
    ⟨fun ⟨listed, clean, ends, behind⟩ => ⟨listed, clean, ends, behind⟩,
      fun stands => ⟨stands.listed, stands.clean, stands.ends, stands.behind⟩⟩

/-- Each secret stands in front of the rest of the line, which may hold more of them. -/
def AllStand : List Secret → String → Prop
  | [], _ => True
  | s :: secrets, rest => s.Stands (secrets.foldr shown rest) ∧ AllStand secrets rest

instance decidableAllStand : (secrets : List Secret) → (rest : String) →
    Decidable (AllStand secrets rest)
  | [], _ => isTrue trivial
  | s :: secrets, rest =>
    have := decidableAllStand secrets rest
    inferInstanceAs (Decidable (s.Stands (secrets.foldr shown rest) ∧ AllStand secrets rest))

lemma Stands.apart {s : Secret} {rest : String} (stands : s.Stands rest) :
    Apart s.value.toList rest.toList := by
  refine ⟨split_of_valueEnd stands.ends, ?_⟩
  intro phrase sensitive b a e
  obtain ⟨text, listed, rfl⟩ := List.mem_map.1 sensitive
  by_contra inside
  refine stands.behind text listed b.length (Nat.lt_of_not_le inside) ⟨a, ?_⟩
  rw [String.toList_append, e, List.append_assoc, List.drop_left]

/-- A secret gives way to stars, and the rest is masked. -/
lemma Stands.mask {s : Secret} {rest : String} (stands : s.Stands rest) :
    mask (s.shown rest) = s.hidden (mask rest) := by
  have known : Sensitive s.phrase.toList := List.mem_map_of_mem stands.listed
  have masked := maskChars_secret (clean_of_listed stands.clean) known stands.apart
  rw [Masking.mask, shown, hidden, Masking.mask]
  apply String.toList_inj.1
  simp only [String.toList_append, String.toList_ofList, List.append_assoc] at masked ⊢
  exact masked

end Secret

/--
A value behind a sensitive phrase gives way to stars whatever it is, what stands before it is kept,
and the rest of the line is masked as if it stood alone. So all secrets on a line give way to stars.
-/
theorem mask_secrets :
    (∀ lead phrase value rest : String, Secret.Stands ⟨lead, phrase, value⟩ rest →
      mask (lead ++ phrase ++ value ++ rest) = lead ++ phrase ++ "***" ++ mask rest) ∧
    ∀ (secrets : List Secret) (rest : String), Secret.AllStand secrets rest →
      mask (secrets.foldr Secret.shown rest) = secrets.foldr Secret.hidden (mask rest) := by
  refine ⟨fun lead phrase value rest stands => stands.mask, fun secrets rest stand => ?_⟩
  induction secrets with
  | nil => rfl
  | cons s secrets ih =>
    rw [List.foldr_cons, List.foldr_cons, stand.1.mask, ih stand.2]

/-- A quoted value with an escaped blank, one of many bytes, and none at all. -/
def threeSecrets : List Secret :=
  [⟨"run ", "BINANCE_API_KEY=", "\"a b\"\\ c"⟩, ⟨" ", "--token ", "ключ"⟩, ⟨" x", "SECRET=", ""⟩]

/-- The three secrets on one line, and one more in what follows them. -/
theorem mask_secrets_three :
    Secret.AllStand threeSecrets " --password=é" ∧ Secret.Stands ⟨" ", "--password=", "é"⟩ "" ∧
      mask "run BINANCE_API_KEY=\"a b\"\\ c --token ключ xSECRET= --password=é" =
        "run BINANCE_API_KEY=*** --token *** xSECRET=*** --password=***" := by
  have stand : Secret.AllStand threeSecrets " --password=é" := by decide +kernel
  have last : Secret.Stands ⟨" ", "--password=", "é"⟩ "" := by decide +kernel
  have all := mask_secrets.2 threeSecrets " --password=é" stand
  have rest := mask_secrets.1 " " "--password=" "é" "" last
  have nothing : mask "" = "" := by decide +kernel
  refine ⟨stand, last, ?_⟩
  calc
    mask _ = threeSecrets.foldr Secret.hidden (mask " --password=é") := all
    _ = threeSecrets.foldr Secret.hidden (" " ++ "--password=" ++ "***" ++ mask "") := by
      rw [← rest]
      rfl
    _ = _ := by
      rw [nothing]
      decide +kernel

end SoakRig.Masking
