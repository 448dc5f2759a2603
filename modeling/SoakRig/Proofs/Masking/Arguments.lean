import SoakRig.Proofs.Masking.Secrets
import SoakRig.Target

/-!
# Secret arguments

Two command lines that differ in one argument behind a secret flag. A pass either masks both values
alike or swallows the flag and the value together, as long as the value is a plain word and the token
in front of the flag does not hold on to it. So the masked lines are the same. Tokens are joined by
blanks without quotes, so a value with a blank, or a flag that is the value of another flag, does
show.
-/

namespace SoakRig.Masking

variable {phrase other front rest value value' : List Char}

namespace Scanner

/-- What one character of a value does to the reader. -/
inductive Step : Scanner → Char → Scanner → Prop
  | unescape {quote : Option Char} {c : Char} : Step ⟨true, quote⟩ c ⟨false, quote⟩
  | escape {quote : Option Char} : Step ⟨false, quote⟩ '\\' ⟨true, quote⟩
  | leave {q : Char} : Step ⟨false, some q⟩ q ⟨false, none⟩
  | inside {q c : Char} : c ≠ '\\' → c ≠ q → Step ⟨false, some q⟩ c ⟨false, some q⟩
  | enter {c : Char} : c = '"' ∨ c = '\'' → Step ⟨false, none⟩ c ⟨false, some c⟩
  | word {c : Char} : c ≠ '\\' → Step ⟨false, none⟩ c ⟨false, none⟩

/-- The reader takes one of the steps, or the value has ended. -/
lemma step_of_next {s s' : Scanner} {c : Char} (next : s.next? c = some s') : s.Step c s' := by
  obtain ⟨escaped, quote⟩ := s
  cases escaped with
  | true =>
    cases next
    exact .unescape
  | false =>
    by_cases backslash : c = '\\'
    · subst backslash
      cases next
      exact .escape
    · simp only [next?, Bool.false_eq_true, if_false, if_neg backslash] at next
      cases quote with
      | some q =>
        dsimp only at next
        by_cases closes : c = q
        · subst closes
          rw [if_pos rfl] at next
          cases next
          exact .leave
        · rw [if_neg closes] at next
          cases next
          exact .inside backslash closes
      | none =>
        dsimp only at next
        by_cases is_quote : c = '"' ∨ c = '\''
        · rw [if_pos is_quote] at next
          cases next
          exact .enter is_quote
        · rw [if_neg is_quote] at next
          split at next
          · cases next
          · cases next
            exact .word backslash

/-- The reader is inside no quote, or inside one of the two kinds. -/
def Quoted (s : Scanner) : Prop := ∀ q ∈ s.quote, q = '"' ∨ q = '\''

lemma Quoted.step {s s' : Scanner} {c : Char} (quoted : s.Quoted) (step : s.Step c s') :
    s'.Quoted := by
  cases step with
  | unescape => exact quoted
  | escape => exact quoted
  | leave => exact nofun
  | inside _ _ => exact quoted
  | enter is_quote =>
    intro q at_q
    cases at_q
    exact is_quote
  | word _ => exact quoted

/-- Only a backslash escapes what follows. -/
lemma Step.not_escaped {s s' : Scanner} {c : Char} (step : s.Step c s') (plain : c ≠ '\\') :
    s'.escaped = false := by
  cases step with
  | escape => exact absurd rfl plain
  | _ => rfl

/-- A blank that is not escaped ends a value, or it stands inside a quote. -/
lemma split_blank (y : List Char) {s : Scanner} (quoted : s.Quoted)
    (start : y = [] → s.escaped = false) (last : y.getLast? ≠ some '\\') :
    (∃ z, z <:+ y ∧ ∀ rest, (s.split (y ++ ' ' :: rest)).2 = z ++ ' ' :: rest) ∨
      ∃ q, (q = '"' ∨ q = '\'') ∧
        ∀ rest, (s.split (y ++ ' ' :: rest)).2 = ((Scanner.mk false (some q)).split rest).2 := by
  induction y generalizing s with
  | nil =>
    obtain ⟨escaped, quote⟩ := s
    obtain rfl : escaped = false := start rfl
    cases quote with
    | none => exact .inl ⟨[], List.suffix_rfl, fun rest => rfl⟩
    | some q =>
      obtain is_quote : q = '"' ∨ q = '\'' := quoted q rfl
      refine .inr ⟨q, is_quote, fun rest => ?_⟩
      rcases is_quote with rfl | rfl <;> rfl
  | cons c y ih =>
    cases next : s.next? c with
    | none =>
      refine .inl ⟨c :: y, List.suffix_rfl, fun rest => ?_⟩
      simp only [List.cons_append, split, next]
    | some s' =>
      have last' : y.getLast? ≠ some '\\' := by
        cases y with
        | nil => simp
        | cons d y => simpa using last
      have start' : y = [] → s'.escaped = false := by
        rintro rfl
        exact (step_of_next next).not_escaped fun same => last (by rw [same]; rfl)
      obtain ⟨z, suffix, ends⟩ | ⟨q, is_quote, on⟩ :=
        ih (quoted.step (step_of_next next)) start' last'
      · refine .inl ⟨z, suffix.trans (List.suffix_cons c y), fun rest => ?_⟩
        simp only [List.cons_append, split, next, ends rest]
      · refine .inr ⟨q, is_quote, fun rest => ?_⟩
        simp only [List.cons_append, split, next, on rest]

/-- Inside a quote everything up to the next quote or backslash is passed over. -/
lemma split_quoted {q : Char} (text rest : List Char) (plain : ∀ c ∈ text, c ≠ '\\' ∧ c ≠ q) :
    ((Scanner.mk false (some q)).split (text ++ rest)).2 =
      ((Scanner.mk false (some q)).split rest).2 := by
  induction text with
  | nil => rfl
  | cons c text ih =>
    obtain ⟨no_backslash, no_quote⟩ := plain c (by simp)
    have stays : (Scanner.mk false (some q)).next? c = some ⟨false, some q⟩ := by
      simp [next?, no_backslash, no_quote]
    rw [List.cons_append, split, stays]
    exact ih fun c mem => plain c (by simp [mem])

end Scanner

/--
A front that ends with a blank which no backslash escapes, and not with a sensitive phrase: it does
not hold on to what follows.
-/
structure Guarded (front : List Char) : Prop where
  blank : ∃ x, front = x ++ [' '] ∧ x.getLast? ≠ some '\\'
  ending : ∀ {phrase}, Sensitive phrase → ¬phrase <:+ front

namespace Guarded

lemma ended (guarded : Guarded front) : Ended front := by
  obtain ⟨x, rfl, -⟩ := guarded.blank
  exact ⟨' ', by simp, .inr rfl⟩

lemma suffix {z : List Char} (guarded : Guarded front) (end_of : z <:+ front) (full : z ≠ []) :
    Guarded z := by
  refine ⟨?_, fun sensitive ends => guarded.ending sensitive (ends.trans end_of)⟩
  obtain ⟨y, c, rfl⟩ := (List.eq_nil_or_concat z).resolve_left full
  rw [List.concat_eq_append] at end_of ⊢
  obtain ⟨x, rfl, last⟩ := guarded.blank
  obtain ⟨w, e⟩ := end_of
  rw [← List.append_assoc] at e
  obtain ⟨rfl, same⟩ := List.append_inj' e rfl
  cases same
  refine ⟨y, rfl, fun escaped => ?_⟩
  rw [List.getLast?_append, escaped] at last
  exact last rfl

/-- Stars in front of a guarded front change nothing. -/
lemma starred (lead : List Char) (guarded : Guarded front) : Guarded (lead ++ stars ++ front) := by
  refine ⟨?_, ?_⟩
  · obtain ⟨x, rfl, last⟩ := guarded.blank
    refine ⟨lead ++ stars ++ x, by simp only [List.append_assoc], ?_⟩
    rw [List.getLast?_append]
    cases at_last : x.getLast? with
    | none => simp [stars, List.getLast?_append]
    | some c => simpa [at_last] using last
  · rintro phrase sensitive ⟨b, e⟩
    have e' : lead ++ stars ++ front = b ++ phrase ++ [] := by rw [List.append_nil, e]
    obtain ⟨more, -, none⟩ | ⟨more, front_at, -⟩ := sensitive.starless.split_at_stars e'
    · simp [stars] at none
    · exact guarded.ending sensitive ⟨more, by rw [front_at, List.append_nil]⟩

/-- A value ends within a guarded front, or it goes on behind it inside a quote. -/
lemma ends (guarded : Guarded front) :
    (∃ z, z <:+ front ∧ Guarded z ∧ ∀ rest, afterValue (front ++ rest) = z ++ rest) ∨
      ∃ q, (q = '"' ∨ q = '\'') ∧
        ∀ rest, afterValue (front ++ rest) = ((Scanner.mk false (some q)).split rest).2 := by
  obtain ⟨x, rfl, last⟩ := guarded.blank
  have outside : Scanner.start.Quoted := nofun
  obtain ⟨z, ⟨w, rfl⟩, ends⟩ | ⟨q, is_quote, on⟩ :=
    Scanner.split_blank x outside (fun _ => rfl) last
  · have end_of : z ++ [' '] <:+ w ++ z ++ [' '] := ⟨w, by simp only [List.append_assoc]⟩
    refine .inl ⟨z ++ [' '], end_of, guarded.suffix end_of (by simp), fun rest => ?_⟩
    rw [afterValue, List.append_assoc (w ++ z), List.append_assoc z]
    exact ends rest
  · refine .inr ⟨q, is_quote, fun rest => ?_⟩
    rw [afterValue, List.append_assoc]
    exact on rest

/-- A pass keeps a guarded front that does not hold the phrase. -/
lemma pass_of_none (guarded : Guarded front) (sensitive : Sensitive other)
    (found : Text.splitFirst? other front = none) (rest : List Char) :
    pass (front ++ rest) other = front ++ pass rest other := by
  refine pass_behind sensitive.full fun b a e => ?_
  obtain ⟨more, front_at, -⟩ | ⟨more, -, rfl⟩ := sensitive.marked.split_behind guarded.ended e
  · exact absurd ⟨b, more, front_at.symm⟩ (Text.not_infix_of_splitFirst? found)
  · simp

/-- A pass masks the value behind the first phrase in a guarded front. -/
lemma pass_of_some {b a : List Char} (guarded : Guarded front) (sensitive : Sensitive other)
    (found : Text.splitFirst? other front = some (b, a)) (rest : List Char) :
    pass (front ++ rest) other = b ++ other ++ stars ++ pass (afterValue (a ++ rest)) other := by
  have front_at := Text.eq_append_of_splitFirst? found
  rw [front_at, List.append_assoc]
  refine pass_first sensitive.full fun b' a' e => ?_
  rw [← List.append_assoc, ← front_at] at e
  obtain ⟨more, front_at', -⟩ | ⟨more, -, rfl⟩ := sensitive.marked.split_behind guarded.ended e
  · exact Text.length_le_of_splitFirst? found front_at'
  · have := congrArg List.length front_at
    simp only [List.length_append] at this ⊢
    omega

/--
A pass over a line that begins with a guarded front either masks the front for itself, whatever
follows, or it is inside a quote at the end of the front and goes on from there.
-/
lemma pass (guarded : Guarded front) (sensitive : Sensitive other) :
    (∃ front', Guarded front' ∧
        ∀ rest, Masking.pass (front ++ rest) other = front' ++ Masking.pass rest other) ∨
      ∃ front' q, (q = '"' ∨ q = '\'') ∧ ∀ rest, Masking.pass (front ++ rest) other =
        front' ++ Masking.pass ((Scanner.mk false (some q)).split rest).2 other := by
  induction length : front.length using Nat.strong_induction_on generalizing front with
  | _ n ih =>
    subst length
    cases found : Text.splitFirst? other front with
    | none => exact .inl ⟨front, guarded, guarded.pass_of_none sensitive found⟩
    | some parts =>
      obtain ⟨b, a⟩ := parts
      have masked := guarded.pass_of_some sensitive found
      have front_at := Text.eq_append_of_splitFirst? found
      have a_full : a ≠ [] := by
        rintro rfl
        exact guarded.ending sensitive ⟨b, by rw [front_at, List.append_nil]⟩
      have guarded_a : Guarded a := guarded.suffix ⟨b ++ other, front_at.symm⟩ a_full
      obtain ⟨z, end_of, guarded_z, ends⟩ | ⟨q, is_quote, on⟩ := guarded_a.ends
      · have shorter : z.length < front.length := by
          have := end_of.length_le
          have := List.length_pos_iff.2 sensitive.full
          rw [front_at]
          simp only [List.length_append]
          omega
        obtain ⟨front', guarded', more⟩ | ⟨front', q, is_quote, more⟩ := ih _ shorter guarded_z rfl
        · refine .inl ⟨_, guarded'.starred (b ++ other), fun rest => ?_⟩
          rw [masked, ends, more]
          simp only [List.append_assoc]
        · refine .inr ⟨b ++ other ++ stars ++ front', q, is_quote, fun rest => ?_⟩
          rw [masked, ends, more]
          simp only [List.append_assoc]
      · exact .inr ⟨b ++ other ++ stars, q, is_quote, fun rest => by rw [masked, on]⟩

end Guarded

/-- Nothing in the text quotes or escapes. -/
def Unquoted (text : List Char) : Prop := ∀ c ∈ text, c ≠ '\\' ∧ c ≠ '"' ∧ c ≠ '\''

instance (text : List Char) : Decidable (Unquoted text) := List.decidableBAll _ text

/-- Inside a quote an unquoted text is passed over. -/
lemma Unquoted.split {q : Char} {text : List Char} (unquoted : Unquoted text)
    (is_quote : q = '"' ∨ q = '\'') (rest : List Char) :
    ((Scanner.mk false (some q)).split (text ++ rest)).2 =
      ((Scanner.mk false (some q)).split rest).2 := by
  refine Scanner.split_quoted text rest fun c mem => ?_
  obtain ⟨no_backslash, no_double, no_single⟩ := unquoted c mem
  rcases is_quote with rfl | rfl
  · exact ⟨no_backslash, no_double⟩
  · exact ⟨no_backslash, no_single⟩

lemma Sensitive.unquoted (sensitive : Sensitive phrase) : Unquoted phrase := by
  have all : ∀ phrase ∈ sensitivePhrases, Unquoted phrase.toList := by decide +kernel
  obtain ⟨text, listed, rfl⟩ := List.mem_map.1 sensitive
  exact all text listed

/-- No sensitive phrase is empty, so none occurs in an empty text. -/
lemma clean_nil : Clean [] := fun sensitive none => sensitive.full (List.infix_nil.1 none)

/-- Two lines that are the same, or would be but for a value behind the phrase. -/
inductive Twins (phrase value value' : List Char) : List Char → List Char → Prop
  | same (line : List Char) : Twins phrase value value' line line
  | differ {front rest : List Char} : Guarded front → Apart value rest → Apart value' rest →
    Twins phrase value value' (front ++ (phrase ++ (value ++ rest)))
      (front ++ (phrase ++ (value' ++ rest)))

/-- A pass leaves twins twins, and if it is the pass of their phrase, it makes them the same. -/
lemma Twins.pass {line line' : List Char} (twins : Twins phrase value value' line line')
    (known : Sensitive phrase) (unquoted : Unquoted value) (unquoted' : Unquoted value')
    (sensitive : Sensitive other) :
    Twins phrase value value' (pass line other) (pass line' other) ∧
      (other = phrase → Masking.pass line other = Masking.pass line' other) := by
  cases twins with
  | same line => exact ⟨.same _, fun _ => rfl⟩
  | @differ front rest guarded apart apart' =>
    obtain ⟨front', guarded', masked⟩ | ⟨front', q, is_quote, masked⟩ := guarded.pass sensitive
    · rw [masked, masked]
      by_cases ending : other <:+ [] ++ phrase
      · -- both values are masked
        have starred := pass_secret clean_nil known apart sensitive ending
        have starred' := pass_secret clean_nil known apart' sensitive ending
        rw [List.nil_append] at starred starred'
        rw [starred, starred']
        exact ⟨.same _, fun _ => rfl⟩
      · have kept := pass_other clean_nil known apart sensitive ending
        have kept' := pass_other clean_nil known apart' sensitive ending
        rw [List.nil_append] at kept kept'
        rw [kept, kept']
        refine ⟨.differ guarded' (apart.pass sensitive) (apart'.pass sensitive), ?_⟩
        rintro rfl
        exact absurd (List.suffix_append [] other) ending
    · -- the front swallows the phrase and either value
      rw [masked, masked, known.unquoted.split is_quote, known.unquoted.split is_quote,
        unquoted.split is_quote, unquoted'.split is_quote]
      exact ⟨.same _, fun _ => rfl⟩

/-- Passes make twins the same if their phrase is among those of the passes. -/
lemma Twins.foldl {phrases : List (List Char)} {line line' : List Char}
    (twins : Twins phrase value value' line line') (known : Sensitive phrase)
    (unquoted : Unquoted value) (unquoted' : Unquoted value')
    (all : ∀ other ∈ phrases, Sensitive other) (mem : phrase ∈ phrases) :
    phrases.foldl Masking.pass line = phrases.foldl Masking.pass line' := by
  induction phrases generalizing line line' with
  | nil => cases mem
  | cons other phrases ih =>
    obtain ⟨twins, same⟩ := twins.pass known unquoted unquoted' (all other (by simp))
    rw [List.foldl_cons, List.foldl_cons]
    cases List.mem_cons.1 mem with
    | inl first => rw [same first.symm]
    | inr mem => exact ih twins (fun other mem => all other (by simp [mem])) mem

/-- The flags in front of a secret argument. -/
def secretFlags : List String := ["--api-key", "--api-secret", "--secret", "--token", "--password"]

lemma sensitive_of_flag {flag : String} (listed : flag ∈ secretFlags) :
    Sensitive (flag.toList ++ [' ']) := by
  have all : ∀ flag ∈ secretFlags, flag.toList ++ [' '] ∈ sensitivePhrases.map String.toList := by
    decide +kernel
  exact all flag listed

/-- A sensitive phrase that ends with a blank is a secret flag and the blank. -/
lemma flag_of_sensitive {word : List Char} (sensitive : Sensitive (word ++ [' '])) :
    ∃ flag ∈ secretFlags, flag.toList = word := by
  have all : ∀ phrase ∈ sensitivePhrases, phrase.toList.getLast? = some ' ' →
      ∃ flag ∈ secretFlags, flag.toList = phrase.toList.dropLast := by
    decide +kernel
  obtain ⟨phrase, listed, shape⟩ := List.mem_map.1 sensitive
  obtain ⟨flag, flag_listed, same⟩ := all phrase listed (by rw [shape]; simp)
  exact ⟨flag, flag_listed, by rw [same, shape, List.dropLast_concat]⟩

/-- A word in one piece: no white space, no quotes, no backslash, and no phrase at a blank. -/
structure Plain (value : String) : Prop where
  word : ∀ c ∈ value.toList, ¬Text.isBlank c
  unquoted : Unquoted value.toList
  clean : Clean (value.toList ++ [' '])

instance (value : String) : Decidable (Plain value) :=
  have := List.decidableBAll (¬Text.isBlank ·) value.toList
  decidable_of_iff ((∀ c ∈ value.toList, ¬Text.isBlank c) ∧ Unquoted value.toList ∧
      Clean (value.toList ++ [' ']))
    ⟨fun ⟨word, unquoted, clean⟩ => ⟨word, unquoted, clean⟩,
      fun plain => ⟨plain.word, plain.unquoted, plain.clean⟩⟩

/-- A plain text is a value up to where white space begins. -/
lemma Scanner.split_word {word : List Char} (plain : ∀ c ∈ word, ¬Text.isBlank c)
    (unquoted : Unquoted word) (blank : ∀ c ∈ rest.head?, Text.isBlank c) :
    start.split (word ++ rest) = (word, rest) := by
  induction word with
  | nil => exact split_start_of_isBlank blank
  | cons c word ih =>
    have stays : start.next? c = some start := by
      have := plain c (by simp)
      have := unquoted c (by simp)
      simp_all [next?, start]
    rw [List.cons_append, split, stays]
    simp only [ih (fun c mem => plain c (by simp [mem])) fun c mem => unquoted c (by simp [mem])]

/-- A plain word is a value of its own, at the end of a line or in front of a blank. -/
lemma Plain.apart {value : String} (plain : Plain value)
    (follows : rest = [] ∨ ∃ more, rest = ' ' :: more) : Apart value.toList rest := by
  refine ⟨Scanner.split_word plain.word plain.unquoted ?_, ?_⟩
  · obtain rfl | ⟨more, rfl⟩ := follows
    · exact nofun
    · intro c at_c
      cases at_c
      rfl
  · intro phrase sensitive b a e
    obtain rfl | ⟨more, rfl⟩ := follows
    · refine absurd ?_ (plain.clean sensitive)
      rw [List.append_nil] at e
      exact ⟨b, a ++ [' '], by rw [e]; simp⟩
    · obtain ⟨more, value_at, -⟩ | ⟨more, -, rfl⟩ :=
        sensitive.marked.split_at_stop (.inr rfl) e
      · exact absurd ⟨b, more, value_at.symm⟩ (plain.clean sensitive)
      · simp

/-- The command line does not hold on to the token behind it: no escape and no secret flag ends it. -/
structure Released (line : String) : Prop where
  unescaped : line.toList.getLast? ≠ some '\\'
  unflagged : ∀ flag ∈ secretFlags, ¬flag.toList <:+ line.toList

/-- A released command line and a blank are a guarded front. -/
lemma Released.guarded {line : String} (released : Released line) :
    Guarded (line.toList ++ [' ']) := by
  refine ⟨⟨_, rfl, released.unescaped⟩, ?_⟩
  rintro phrase sensitive ⟨b, e⟩
  cases sensitive.marked with
  | intro word mark _ _ =>
    rw [← List.append_assoc] at e
    obtain ⟨line_at, same⟩ := List.append_inj' e rfl
    cases same
    obtain ⟨flag, listed, rfl⟩ := flag_of_sensitive sensitive
    exact released.unflagged flag listed ⟨b, line_at⟩

/-- What the arguments behind a secret one add to the command line. -/
def trailing (args : List String) : List Char :=
  if args = [] then [] else ' ' :: (String.intercalate " " args).toList

/-- A command line around a flag and its value. -/
lemma toList_display (t : Target) (before after : List String) (flag value : String) :
    (t.display (before ++ flag :: value :: after)).toList =
      (t.display before).toList ++ [' '] ++
        (flag.toList ++ [' '] ++ (value.toList ++ trailing after)) := by
  have tokens : t.program :: t.argv (before ++ flag :: value :: after) =
      (t.program :: t.argv before) ++ flag :: value :: after := by
    simp [Target.argv]
  have behind : (String.intercalate " " (value :: after)).toList =
      value.toList ++ trailing after := by
    cases after with
    | nil => simp [trailing]
    | cons arg args => simp [trailing, String.intercalate_cons_cons]
  rw [Target.display, tokens, String.intercalate_append_of_ne_nil (by simp) (by simp),
    String.intercalate_cons_cons, Target.display]
  simp only [String.toList_append, behind]
  rfl

/--
What is logged of a command line does not depend on the argument behind a secret flag, if it is a
plain word and the line in front of the flag is released, whatever the other tokens are.
-/
theorem mask_display (t : Target) (before after : List String) (flag value value' : String)
    (listed : flag ∈ secretFlags) (released : Released (t.display before))
    (plain : Plain value) (plain' : Plain value') :
    mask (t.display (before ++ flag :: value :: after)) =
      mask (t.display (before ++ flag :: value' :: after)) := by
  have known := sensitive_of_flag listed
  have follows : trailing after = [] ∨ ∃ more, trailing after = ' ' :: more := by
    unfold trailing
    split
    · exact .inl rfl
    · exact .inr ⟨_, rfl⟩
  have twins : Twins (flag.toList ++ [' ']) value.toList value'.toList
      (t.display (before ++ flag :: value :: after)).toList
      (t.display (before ++ flag :: value' :: after)).toList := by
    rw [toList_display, toList_display]
    exact .differ released.guarded (plain.apart follows) (plain'.apart follows)
  have masked := twins.foldl known plain.unquoted plain'.unquoted (fun _ mem => mem) known
  rw [mask, mask, maskChars, maskChars, masked]

/-- A client behind a quoted key, and two secrets of different lengths. -/
theorem mask_display_quoted :
    let t : Target := ⟨"env", ["API_KEY='a", "b'"]⟩
    Released (t.display ["client"]) ∧ Plain "s3cret" ∧ Plain "ключ" ∧
      mask (t.display ["client", "--token", "s3cret", "--secret", "y z"]) =
        mask (t.display ["client", "--token", "ключ", "--secret", "y z"]) := by
  intro t
  have released : Released (t.display ["client"]) := by
    constructor <;> decide +kernel
  have plain : Plain "s3cret" := by decide +kernel
  have plain' : Plain "ключ" := by decide +kernel
  exact ⟨released, plain, plain',
    mask_display t ["client"] ["--secret", "y z"] "--token" "s3cret" "ключ" (by decide) released
      plain plain'⟩

/--
Without these conditions a secret shows: behind a blank in it, behind a secret flag whose value is
the flag in front of it, and behind an escaped blank.
-/
theorem mask_display_reveals :
    (¬∀ (t : Target) (before after : List String) (flag value value' : String),
      flag ∈ secretFlags →
      (∀ v ∈ [value, value'], v ≠ "" ∧ Unquoted v.toList ∧ Clean v.toList) →
      mask (t.display (before ++ flag :: value :: after)) =
        mask (t.display (before ++ flag :: value' :: after))) ∧
    mask ((Target.direct "client").display ["--token", "a b"]) = "client --token *** b" ∧
    mask ((Target.direct "client").display ["--secret", "--token", "a"]) = "client --secret *** a" ∧
    mask ((Target.direct "client").display ["TOKEN=x\\", "--token", "a"]) = "client TOKEN=*** a" := by
  refine ⟨fun same => ?_, by decide +kernel, by decide +kernel, by decide +kernel⟩
  have harmless : ∀ v ∈ ["a b", "a c"], v ≠ "" ∧ Unquoted v.toList ∧ Clean v.toList := by
    decide +kernel
  exact absurd (same (Target.direct "client") [] [] "--token" "a b" "a c" (by decide) harmless)
    (by decide +kernel)

end SoakRig.Masking
