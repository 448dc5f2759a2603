import Mathlib.Data.List.Nodup
import Mathlib.Data.List.TakeWhile
import SoakRig.CommandLine.Grammar
import SoakRig.Proofs.Text.Utf8

/-!
# Options in front of a separator

What a grammar reads from options that have their values in their own tokens, and from the
environment for the others. `scan_choices` says that such tokens give their options one after another
and that nothing behind the separator is looked at, `lookUp_of_…` what a variable adds.
-/

namespace SoakRig.CommandLine

variable {δ : Type} {g : Grammar δ} {o : Spec δ} {value : List UInt8} {d d' : δ}

/-- The bytes of a text. -/
def bytes (text : String) : List UInt8 := Text.utf8 text.toList

/-- A value that has to be text is the bytes of one. -/
lemma ofText_eq_ok {α : Type} {f : String → Except Reason α} {a : α} :
    ofText f value = .ok a ↔ ∃ text, value = bytes text ∧ f text = .ok a := by
  unfold ofText
  constructor
  · intro taken
    cases decoded : Text.decode? value with
    | none =>
      rw [decoded] at taken
      cases taken
    | some text =>
      rw [decoded] at taken
      refine ⟨String.ofList text, ?_, taken⟩
      rw [bytes, String.toList_ofList, ← Text.eq_utf8_of_decode? decoded]
  · rintro ⟨text, rfl, taken⟩
    rw [bytes, Text.decode?_utf8]
    simpa using taken

namespace Spec

/-- The option takes the value. -/
def Accepts (o : Spec δ) (value : List UInt8) : Prop := ∃ d d', o.set value d = .ok d'

/-- The value that the option inherits from the environment. -/
def inherited? (o : Spec δ) (env : Environment) : Option (List UInt8) :=
  o.variableName.bind env.bytes?

/-- The variable of the option is not set, or the option takes what it holds. -/
def Acceptable (o : Spec δ) (env : Environment) : Prop :=
  ∀ value, o.inherited? env = some value → o.Accepts value

/-- An option that has no value yet is given one that it takes. -/
lemma give_of_set (unset : o.isSet d = false) (taken : o.set value d = .ok d') :
    o.give value d = .ok d' := by
  rw [give, put, unset, taken]
  rfl

end Spec

/-- A grammar in which every option can be told from the others by its name. -/
structure Grammar.Regular (g : Grammar δ) : Prop where
  found : ∀ o ∈ g.specs, g.findLong? o.long = some o
  named : ∀ o ∈ g.specs, bytes o.long ≠ [] ∧ Token.equals ∉ bytes o.long

/-- An option of a grammar with its value; a flag has none. -/
structure Choice (g : Grammar δ) where
  option : Spec δ
  value : List UInt8
  listed : option ∈ g.specs
  plain : option.isFlag → value = []

namespace Choice

/-- The token that gives the option. -/
def token (c : Choice g) : List UInt8 :=
  bytes ("--" ++ c.option.long) ++ if c.option.isFlag then [] else bytes "=" ++ c.value

def name (c : Choice g) : String := c.option.long

end Choice

section Shapes

variable {name : String} (filled : bytes name ≠ []) (plain : Token.equals ∉ bytes name)

/-- Two dashes in front of something make an option of it. -/
lemma ofBytes_dashes {rest : List UInt8} (filled : rest ≠ []) :
    Token.ofBytes (bytes "--" ++ rest) = .ofName rest := by
  have dashes : bytes "--" = [Token.dash, Token.dash] := by decide
  rw [dashes, List.cons_append, List.cons_append, List.nil_append, Token.ofBytes]
  simp [filled]

lemma bytes_append (text more : String) : bytes (text ++ more) = bytes text ++ bytes more := by
  rw [bytes, String.toList_append, Text.utf8_append]
  rfl

include plain in
lemma takeWhile_name (rest : List UInt8) :
    (bytes name ++ rest).takeWhile (· ≠ Token.equals) =
      bytes name ++ rest.takeWhile (· ≠ Token.equals) := by
  apply List.takeWhile_append_of_pos
  intro b mem
  simpa using fun same : b = Token.equals => plain (same ▸ mem)

include filled plain

lemma ofBytes_name : Token.ofBytes (bytes ("--" ++ name)) = .long name none := by
  have front := takeWhile_name plain []
  rw [List.append_nil, List.takeWhile_nil, List.append_nil] at front
  rw [bytes_append, ofBytes_dashes filled, Token.ofName, front, bytes, Text.decode?_utf8]
  simp

lemma ofBytes_value (value : List UInt8) :
    Token.ofBytes (bytes ("--" ++ name) ++ (bytes "=" ++ value)) = .long name (some value) := by
  have sign : bytes "=" = [Token.equals] := by decide
  have front : (bytes name ++ (bytes "=" ++ value)).takeWhile (· ≠ Token.equals) = bytes name := by
    rw [takeWhile_name plain, sign, List.singleton_append, List.takeWhile_cons_of_neg (by simp),
      List.append_nil]
  rw [bytes_append, List.append_assoc, ofBytes_dashes (by simp [filled]), Token.ofName, front,
    List.drop_left, bytes, Text.decode?_utf8, sign]
  simp

end Shapes

namespace Grammar

lemma settleAndGive_of_set (unset : o.isSet d = false) (taken : o.set value d = .ok d') :
    settleAndGive o value ⟨d, none⟩ = .ok ⟨d', none⟩ := by
  have given := Spec.give_of_set unset taken
  simp only [settleAndGive, settle]
  show (do let draft ← o.give value d; pure (⟨draft, none⟩ : State δ)) = _
  rw [given]
  rfl

/-- The token of an option looks like the option with its value. -/
lemma ofBytes_token (regular : g.Regular) (c : Choice g) : Token.ofBytes c.token =
    .long c.option.long (if c.option.isFlag then none else some c.value) := by
  obtain ⟨filled, plain⟩ := regular.named c.option c.listed
  unfold Choice.token
  split
  · rw [List.append_nil, ofBytes_name filled plain]
  · exact ofBytes_value filled plain c.value

/-- The token of an option that has no value yet gives it its value. -/
lemma option_choice (regular : g.Regular) (c : Choice g) (unset : c.option.isSet d = false)
    (taken : c.option.set c.value d = .ok d') :
    g.option c.token ⟨d, none⟩ = some (.ok ⟨d', none⟩) := by
  have found := regular.found c.option c.listed
  have given := settleAndGive_of_set unset taken
  rw [option, ofBytes_token regular c]
  by_cases flag : c.option.isFlag = true
  · rw [c.plain flag] at given
    simp only [long, found, flag, if_true, given]
  · simp only [long, found, if_neg flag, given]

lemma token_ne_separator (regular : g.Regular) (c : Choice g) :
    Token.ofBytes c.token ≠ .separator := by
  rw [ofBytes_token regular c]
  exact Token.noConfusion

/-- The options fill the draft one after another. -/
inductive Fills : List (Choice g) → δ → δ → Prop where
  | nil {d : δ} : Fills [] d d
  | cons {c : Choice g} {cs d d' d''} (unset : c.option.isSet d = false)
      (taken : c.option.set c.value d = .ok d') (rest : Fills cs d' d'') : Fills (c :: cs) d d''

/-- Options in front of other tokens fill the draft, and then the other tokens are read. -/
lemma scan_choices (regular : g.Regular) {cs : List (Choice g)} (fills : Fills cs d d')
    (tokens : List (List UInt8)) :
    g.scan (cs.map Choice.token ++ tokens) ⟨d, none⟩ = g.scan tokens ⟨d', none⟩ := by
  induction fills with
  | nil => rfl
  | @cons c cs d d' d'' unset taken _ ih =>
    rw [List.map_cons, List.cons_append, scan, if_neg (token_ne_separator regular c),
      option_choice regular c unset taken]
    exact ih

lemma scan_separator (s : State δ) (tokens : List (List UInt8)) :
    g.scan (bytes "--" :: tokens) s = g.takeCommand tokens s := by
  rw [scan, if_pos (by decide)]

/-- The texts of tokens that are the bytes of texts. -/
lemma texts?_bytes (tokens : List String) : texts? (tokens.map bytes) = some tokens := by
  unfold texts?
  induction tokens with
  | nil => rfl
  | cons token tokens ih =>
    rw [List.map_cons, List.mapM_cons, ih, bytes, Text.decode?_utf8]
    simp

lemma bytes_injective : Function.Injective bytes := by
  intro text text' same
  exact String.toList_injective (Text.utf8_injective same)

lemma lookUp_of_isSet {env : Environment} (is_set : o.isSet d = true) : lookUp env o d = .ok d := by
  rw [lookUp, if_pos is_set]

/-- An option without a value gets what it inherits. -/
lemma lookUp_of_inherited {env : Environment} (unset : o.isSet d = false)
    (inherits : o.inherited? env = some value) (taken : o.set value d = .ok d') :
    lookUp env o d = .ok d' := by
  unfold Spec.inherited? at inherits
  simp only [lookUp, unset, inherits, Bool.false_eq_true, if_false, Spec.put, taken]

/-- An option without a value inherits nothing if its variable is not set. -/
lemma lookUp_of_none {env : Environment} (unset : o.isSet d = false)
    (none_inherited : o.inherited? env = none) : lookUp env o d = .ok d := by
  unfold Spec.inherited? at none_inherited
  simp only [lookUp, unset, none_inherited, Bool.false_eq_true, if_false]

end Grammar

end SoakRig.CommandLine
