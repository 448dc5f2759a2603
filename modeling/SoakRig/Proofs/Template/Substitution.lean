import Mathlib.Data.List.Infix
import SoakRig.Template

/-!
# Placeholders filled at once

A token read once from left to right is a row of pieces: placeholders, and characters that stand for
themselves. The token for an iteration is that row with every placeholder filled by its value. That
it is also what two replacements one after the other leave rests on two facts: an opening brace
stands at the front of a placeholder and nowhere else in it, and no value has a character in common
with a placeholder.
-/

namespace SoakRig

namespace Text

variable {o : Char} {phrase name front replacement text : List Char}

/-- What does not hold the first character of a phrase is kept by the replacement of the phrase. -/
lemma replaceAll_append (plain : o ∉ front) (replacement text : List Char) :
    replaceAll (o :: name) replacement (front ++ text) =
      front ++ replaceAll (o :: name) replacement text := by
  induction front with
  | nil => rfl
  | cons c cs ih =>
    have other : ¬(o :: name) <+: c :: (cs ++ text) := by
      intro start
      apply plain
      rw [(List.cons_prefix_cons.1 start).1]
      exact List.mem_cons_self
    rw [List.cons_append, replaceAll_cons other, ih (fun mem => plain (.tail c mem)),
      List.cons_append]

/-- A text without the phrase is kept by its replacement. -/
lemma replaceAll_of_not_infix (free : ¬phrase <:+: text) (replacement : List Char) :
    replaceAll phrase replacement text = text := by
  induction text with
  | nil => exact replaceAll_nil phrase replacement
  | cons c cs ih =>
    rw [List.infix_cons_iff, not_or] at free
    rw [replaceAll_cons free.1, ih free.2]

/-- What a text starts with after a replacement, it started with before, if what was put in has no
part in it. -/
lemma prefix_of_prefix_replaceAll {word : List Char} (some_put : replacement ≠ [])
    (apart : ∀ c ∈ replacement, c ∉ word) (start : word <+: replaceAll phrase replacement text) :
    word <+: text := by
  induction text generalizing word with
  | nil => rwa [replaceAll_nil] at start
  | cons c cs ih =>
    cases word with
    | nil => exact List.nil_prefix
    | cons d word =>
      by_cases here : phrase <+: c :: cs
      · obtain ⟨rest, text⟩ := here
        by_cases empty : phrase = []
        · subst empty
          rwa [replaceAll, dif_pos rfl] at start
        · rw [← text, replaceAll_phrase empty] at start
          obtain ⟨r, rs, rfl⟩ := List.exists_cons_of_ne_nil some_put
          obtain ⟨rfl, -⟩ := List.cons_prefix_cons.1 start
          exact absurd List.mem_cons_self (apart d List.mem_cons_self)
      · rw [replaceAll_cons here] at start
        obtain ⟨rfl, more⟩ := List.cons_prefix_cons.1 start
        have later : ∀ c ∈ replacement, c ∉ word := fun c put mem => apart c put (.tail d mem)
        exact List.cons_prefix_cons.2 ⟨rfl, ih later more⟩

/-- A phrase does not begin where its first character does not stand. -/
lemma infix_of_infix_append (plain : o ∉ front) (held : (o :: name) <:+: front ++ text) :
    (o :: name) <:+: text := by
  induction front with
  | nil => exact held
  | cons c cs ih =>
    rcases List.infix_cons_iff.1 held with start | held
    · obtain ⟨rfl, -⟩ := List.cons_prefix_cons.1 start
      exact absurd List.mem_cons_self plain
    · exact ih (fun mem => plain (.tail c mem)) held

end Text

namespace Template

/-- What can be filled in. -/
inductive Slot where
  | iteration
  | time
deriving DecidableEq

/-- How a slot is written in a token. -/
def Slot.placeholder : Slot → List Char
  | iteration => iterationPlaceholder
  | time => timePlaceholder

/-- A piece of a token. -/
inductive Piece where
  | char (c : Char)
  | slot (s : Slot)

/-- The pieces of a token, read once from left to right. -/
def pieces : List Char → List Piece
  | [] => []
  | '\x7b' :: 'i' :: '\x7d' :: rest => .slot .iteration :: pieces rest
  | '\x7b' :: 't' :: 's' :: '\x7d' :: rest => .slot .time :: pieces rest
  | c :: rest => .char c :: pieces rest

/-- The text of a piece whose slot has a value. -/
def Piece.text (value : Slot → List Char) : Piece → List Char
  | char c => [c]
  | slot s => value s

/-- The pieces with the values of the slots filled in. -/
def fill (value : Slot → List Char) (ps : List Piece) : List Char := ps.flatMap (Piece.text value)

/-- The token with the values filled in, all at once. -/
def substitute (value : Slot → List Char) (token : List Char) : List Char :=
  fill value (pieces token)

/-- The values of the slots for one iteration at a time. -/
def values (iteration : UInt32) (time : Int) : Slot → List Char
  | .iteration => Decimal.natural iteration.toNat
  | .time => Decimal.integer time

/-- Every slot has a value, of digits and minus signs. -/
def Inert (value : Slot → List Char) : Prop :=
  ∀ s, value s ≠ [] ∧ ∀ c ∈ value s, c.isDigit ∨ c = '-'

variable {value : Slot → List Char} {s t : Slot} {token : List Char}

lemma inert_values (iteration : UInt32) (time : Int) : Inert (values iteration time) := by
  intro s
  cases s with
  | iteration =>
    exact ⟨Nat.toDigits_ne_nil, fun c mem => .inl (Decimal.isDigit_of_mem_natural mem)⟩
  | time =>
    refine ⟨?_, fun c mem => Decimal.isDigit_of_mem_integer mem⟩
    cases time with
    | ofNat n => exact Nat.toDigits_ne_nil
    | negSucc n => exact List.cons_ne_nil _ _

/-- A placeholder has an opening brace at its front and no other one. -/
lemma Slot.opened (s : Slot) : ∃ name, s.placeholder = '\x7b' :: name ∧ '\x7b' ∉ name := by
  cases s with
  | iteration => exact ⟨['i', '\x7d'], rfl, by decide⟩
  | time => exact ⟨['t', 's', '\x7d'], rfl, by decide⟩

lemma Slot.placeholder_ne_nil (s : Slot) : s.placeholder ≠ [] := by
  cases s <;> exact List.cons_ne_nil _ _

/-- There are two slots. -/
lemma Slot.eq_of_ne {u : Slot} (other : s ≠ t) (first : u ≠ s) : u = t := by
  cases s <;> cases t <;> cases u <;> simp_all

/-- Where one placeholder stands, the other one does not begin. -/
lemma Slot.eq_of_prefix {rest : List Char} (start : s.placeholder <+: t.placeholder ++ rest) :
    s = t := by
  cases s <;> cases t
  case iteration.iteration => rfl
  case time.time => rfl
  case iteration.time =>
    obtain ⟨-, start⟩ := List.cons_prefix_cons.1 start
    exact absurd (List.cons_prefix_cons.1 start).1 (by decide)
  case time.iteration =>
    obtain ⟨-, start⟩ := List.cons_prefix_cons.1 start
    exact absurd (List.cons_prefix_cons.1 start).1 (by decide)

/-- No value has a character in common with a placeholder. -/
lemma Inert.apart (inert : Inert value) {c : Char} (put : c ∈ value s) : c ∉ t.placeholder := by
  have plain : t.placeholder.all fun c => !c.isDigit && c ≠ '-' := by cases t <;> decide
  intro mem
  have letter := List.all_eq_true.1 plain c mem
  rcases (inert s).2 c put with digit | minus
  · simp [digit] at letter
  · simp [minus] at letter

lemma Inert.no_brace (inert : Inert value) (s : Slot) : '\x7b' ∉ value s :=
  fun put => inert.apart (t := .iteration) put (by decide)

@[simp] lemma pieces_placeholder (s : Slot) (rest : List Char) :
    pieces (s.placeholder ++ rest) = .slot s :: pieces rest := by
  cases s <;> rfl

/-- Where no placeholder begins, a character stands for itself. -/
lemma pieces_cons {c : Char} {rest : List Char} (plain : ∀ s : Slot, ¬s.placeholder <+: c :: rest) :
    pieces (c :: rest) = .char c :: pieces rest := by
  have iteration : ∀ more, c :: rest ≠ iterationPlaceholder ++ more :=
    fun more e => plain .iteration ⟨more, e.symm⟩
  have time : ∀ more, c :: rest ≠ timePlaceholder ++ more :=
    fun more e => plain .time ⟨more, e.symm⟩
  rw [pieces]
  · rintro more rfl rfl
    exact iteration more rfl
  · rintro more rfl rfl
    exact time more rfl

/-- A token is empty, or begins with a placeholder, or with a character that stands for itself. -/
lemma token_induct {P : List Char → Prop} (nil : P [])
    (slot : ∀ s rest, P rest → P (Slot.placeholder s ++ rest))
    (char : ∀ c rest, (∀ s : Slot, ¬s.placeholder <+: c :: rest) → P rest → P (c :: rest))
    (token : List Char) : P token := by
  induction token using pieces.induct with
  | case1 => exact nil
  | case2 rest ih => exact slot .iteration rest ih
  | case3 rest ih => exact slot .time rest ih
  | case4 c rest no_iteration no_time ih =>
    refine char c rest (fun s start => ?_) ih
    obtain ⟨more, e⟩ := start
    cases s with
    | iteration =>
      cases e
      exact no_iteration more rfl rfl
    | time =>
      cases e
      exact no_time more rfl rfl

@[simp] lemma substitute_nil (value : Slot → List Char) : substitute value [] = [] := rfl

@[simp] lemma substitute_placeholder (value : Slot → List Char) (s : Slot) (rest : List Char) :
    substitute value (s.placeholder ++ rest) = value s ++ substitute value rest := by
  rw [substitute, pieces_placeholder]
  rfl

lemma substitute_cons (value : Slot → List Char) {c : Char} {rest : List Char}
    (plain : ∀ s : Slot, ¬s.placeholder <+: c :: rest) :
    substitute value (c :: rest) = c :: substitute value rest := by
  rw [substitute, pieces_cons plain]
  rfl

/-- The replacement of one placeholder keeps the other one at the front. -/
lemma replaceAll_other (other : s ≠ t) (replacement rest : List Char) :
    Text.replaceAll s.placeholder replacement (t.placeholder ++ rest) =
      t.placeholder ++ Text.replaceAll s.placeholder replacement rest := by
  have away : ¬s.placeholder <+: t.placeholder ++ rest :=
    fun start => other (Slot.eq_of_prefix start)
  obtain ⟨word, s_eq, -⟩ := s.opened
  obtain ⟨name, t_eq, plain⟩ := t.opened
  rw [t_eq, List.cons_append] at away ⊢
  rw [Text.replaceAll_cons away, s_eq, Text.replaceAll_append plain, List.cons_append]

/-- No value makes a placeholder at the front where there was none. -/
lemma Inert.plain (inert : Inert value) {c : Char} {rest : List Char}
    (plain : ∀ s : Slot, ¬s.placeholder <+: c :: rest) (s t : Slot) :
    ¬t.placeholder <+: c :: Text.replaceAll s.placeholder (value s) rest := by
  intro start
  obtain ⟨name, t_eq, -⟩ := t.opened
  have apart : ∀ d ∈ value s, d ∉ name := by
    intro d put mem
    apply inert.apart (t := t) put
    rw [t_eq]
    exact .tail _ mem
  rw [t_eq] at start
  obtain ⟨rfl, more⟩ := List.cons_prefix_cons.1 start
  apply plain t
  rw [t_eq]
  exact List.cons_prefix_cons.2 ⟨rfl, Text.prefix_of_prefix_replaceAll (inert s).1 apart more⟩

/-- Two replacements one after the other, in either order, fill in both values at once. -/
lemma replaceAll_replaceAll (inert : Inert value) (other : s ≠ t) (token : List Char) :
    Text.replaceAll t.placeholder (value t) (Text.replaceAll s.placeholder (value s) token) =
      substitute value token := by
  induction token using token_induct with
  | nil => rw [Text.replaceAll_nil, Text.replaceAll_nil, substitute_nil]
  | slot u rest ih =>
    by_cases first : u = s
    · subst first
      obtain ⟨name, t_eq, -⟩ := t.opened
      rw [Text.replaceAll_phrase u.placeholder_ne_nil, t_eq,
        Text.replaceAll_append (inert.no_brace u), ← t_eq, ih, substitute_placeholder]
    · obtain rfl := Slot.eq_of_ne other first
      rw [replaceAll_other other, Text.replaceAll_phrase u.placeholder_ne_nil, ih,
        substitute_placeholder]
  | char c rest plain ih =>
    rw [Text.replaceAll_cons (plain s), Text.replaceAll_cons (inert.plain plain s t), ih,
      substitute_cons value plain]

lemma renderChars_eq (iteration : UInt32) (time : Int) (token : List Char) :
    renderChars iteration time token = substitute (values iteration time) token :=
  replaceAll_replaceAll (s := .iteration) (t := .time) (inert_values iteration time) (by decide)
    token

/--
Every token is rendered as it is with both values filled in at once, and so it is whichever
placeholder is replaced first. The tokens keep their number and their order.
-/
theorem render_simultaneous (tokens : List String) (iteration : UInt32) (time : Int) :
    render tokens iteration time =
      tokens.map (fun token => String.ofList (substitute (values iteration time) token.toList)) ∧
    render tokens iteration time =
      tokens.map (fun token => String.ofList
        (Text.replaceAll iterationPlaceholder (Decimal.natural iteration.toNat)
          (Text.replaceAll timePlaceholder (Decimal.integer time) token.toList))) ∧
    (render tokens iteration time).length = tokens.length ∧
    ∀ n : Nat,
      (render tokens iteration time)[n]? = tokens[n]?.map (renderToken iteration time) := by
  refine ⟨?_, ?_, List.length_map _, fun n => List.getElem?_map⟩
  · apply List.map_congr_left
    intro token _
    rw [renderToken, renderChars_eq]
  · apply List.map_congr_left
    intro token _
    have reversed := replaceAll_replaceAll (s := .time) (t := .iteration)
      (inert_values iteration time) (by decide) token.toList
    rw [renderToken, renderChars_eq, ← reversed]
    rfl

example : substitute (values 7 (-1)) "\x7bt\x7bi\x7ds\x7d\x7b\x7bts\x7di\x7d".toList =
    "\x7bt7s\x7d\x7b-1i\x7d".toList := by decide

/-- With the values filled in no placeholder is left, and none has come up. -/
lemma Inert.placeholder_free (inert : Inert value) (s : Slot) (token : List Char) :
    ¬s.placeholder <:+: substitute value token := by
  induction token using token_induct with
  | nil =>
    rw [substitute_nil, List.infix_nil]
    exact s.placeholder_ne_nil
  | slot u rest ih =>
    rw [substitute_placeholder]
    obtain ⟨name, s_eq, -⟩ := s.opened
    rw [s_eq] at ih ⊢
    exact fun held => ih (Text.infix_of_infix_append (inert.no_brace u) held)
  | char c rest plain ih =>
    rw [substitute_cons value plain, List.infix_cons_iff, not_or]
    refine ⟨?_, ih⟩
    -- neither replacement makes a placeholder at the front
    have once := fun t => inert.plain plain .iteration t
    have twice := inert.plain once .time s
    rwa [replaceAll_replaceAll inert (by decide)] at twice

/-- A rendered token holds no placeholder. -/
lemma not_infix_renderToken (iteration : UInt32) (time : Int) (token : String) (s : Slot) :
    ¬s.placeholder <:+: (renderToken iteration time token).toList := by
  rw [renderToken, String.toList_ofList, renderChars_eq]
  exact (inert_values iteration time).placeholder_free s token.toList

/-- A token is left as it is exactly if it holds no placeholder. -/
lemma renderToken_eq_iff (iteration : UInt32) (time : Int) (token : String) :
    renderToken iteration time token = token ↔ ∀ s : Slot, ¬s.placeholder <:+: token.toList := by
  constructor
  · intro same s
    rw [← same]
    exact not_infix_renderToken iteration time token s
  · intro free
    have no_iteration : ¬iterationPlaceholder <:+: token.toList := free .iteration
    have no_time : ¬timePlaceholder <:+: token.toList := free .time
    rw [renderToken, renderChars, Text.replaceAll_of_not_infix no_iteration,
      Text.replaceAll_of_not_infix no_time, String.ofList_toList]

lemma forall_slot {P : Slot → Prop} : (∀ s, P s) ↔ P .iteration ∧ P .time := by
  constructor
  · exact fun all => ⟨all .iteration, all .time⟩
  · rintro ⟨iteration, time⟩ (_ | _)
    · exact iteration
    · exact time

/--
No rendered token holds a placeholder, so tokens that were rendered are never changed by being
rendered again; a token is left as it is exactly if it holds neither placeholder.
-/
theorem render_absorbing (tokens : List String) (iteration : UInt32) (time : Int) :
    (∀ token ∈ render tokens iteration time,
      ¬iterationPlaceholder <:+: token.toList ∧ ¬timePlaceholder <:+: token.toList) ∧
    (∀ later hour,
      render (render tokens iteration time) later hour = render tokens iteration time) ∧
    ∀ token, renderToken iteration time token = token ↔
      ¬iterationPlaceholder <:+: token.toList ∧ ¬timePlaceholder <:+: token.toList := by
  refine ⟨?_, ?_, fun token => (renderToken_eq_iff iteration time token).trans forall_slot⟩
  · intro token mem
    obtain ⟨given, -, rfl⟩ := List.mem_map.1 mem
    exact forall_slot.1 (not_infix_renderToken iteration time given)
  · intro later hour
    rw [render, render, List.map_map]
    apply List.map_congr_left
    intro token _
    exact (renderToken_eq_iff later hour _).2 (not_infix_renderToken iteration time token)

/-- A placeholder around another one does not close up when the inner one is replaced. -/
theorem render_absorbing_nested :
    "\x7bt3s\x7d" ∈ render ["\x7bt\x7bi\x7ds\x7d"] 3 (-5) ∧
      ¬iterationPlaceholder <:+: "\x7bt3s\x7d".toList ∧
      ¬timePlaceholder <:+: "\x7bt3s\x7d".toList ∧
      render ["\x7bt3s\x7d"] 4 6 = ["\x7bt3s\x7d"] := by
  have rendered : render ["\x7bt\x7bi\x7ds\x7d"] 3 (-5) = ["\x7bt3s\x7d"] := by
    rw [render, List.map_singleton, renderToken, renderChars_eq]
    decide
  obtain ⟨free, again, -⟩ := render_absorbing ["\x7bt\x7bi\x7ds\x7d"] 3 (-5)
  rw [rendered] at free again
  have here : "\x7bt3s\x7d" ∈ ["\x7bt3s\x7d"] := List.mem_singleton_self _
  exact ⟨rendered ▸ here, (free _ here).1, (free _ here).2, again 4 6⟩

end Template

end SoakRig
