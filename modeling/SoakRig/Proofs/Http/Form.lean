import Mathlib.Tactic.IntervalCases
import SoakRig.Http.Form
import SoakRig.Proofs.Text.Utf8

/-!
# Reading encoded forms

A text may be encoded in many ways: every byte may be written with a percent sign, a blank as a
plus, and most bytes as they are. `Encodes` is the relation of bytes and all the ways to write them,
and decoding undoes each of them. A query is read as the parameters that were joined to it, each
with its name and its value.
-/

namespace SoakRig.Http.Form

variable {bytes raw : List UInt8} {b : UInt8} {n m : Nat}

/-! ## Encodings -/

/-- The byte is the hexadecimal digit of the number, in either case. -/
def IsHex (n : Nat) (b : UInt8) : Prop :=
  n < 16 ∧ (b = UInt8.ofNat (Nat.digitChar n).toNat ∨
    b = UInt8.ofNat (Nat.digitChar n).toUpper.toNat)

instance (n : Nat) (b : UInt8) : Decidable (IsHex n b) := inferInstanceAs (Decidable (_ ∧ _))

/-- The byte may stand for itself: it is no percent sign, no ampersand and no plus. -/
def IsPlain (b : UInt8) : Prop := b ≠ 0x25 ∧ b ≠ 0x26 ∧ b ≠ 0x2B

instance (b : UInt8) : Decidable (IsPlain b) := inferInstanceAs (Decidable (_ ∧ _))

/-- The ways to write bytes in a form. -/
inductive Encodes : List UInt8 → List UInt8 → Prop where
  | nil : Encodes [] []
  | plain {b : UInt8} {bytes raw : List UInt8} (plain : IsPlain b) :
      Encodes bytes raw → Encodes (b :: bytes) (b :: raw)
  | blank {bytes raw : List UInt8} : Encodes bytes raw → Encodes (0x20 :: bytes) (0x2B :: raw)
  | percent {n m : Nat} {high low : UInt8} {bytes raw : List UInt8} (high_digit : IsHex n high)
      (low_digit : IsHex m low) :
      Encodes bytes raw → Encodes (UInt8.ofNat (n * 16 + m) :: bytes) (0x25 :: high :: low :: raw)

/-- A hexadecimal digit has its value. -/
lemma digit?_of_isHex (digit : IsHex n b) : digit? b = some (UInt8.ofNat n) := by
  obtain ⟨few, rfl | rfl⟩ := digit <;> interval_cases n <;> decide

/-- What has a value is a hexadecimal digit. -/
lemma isHex_of_digit? {v : UInt8} (digit : digit? b = some v) : IsHex v.toNat b := by
  have all : ∀ i < 256, ∀ v ∈ digit? (UInt8.ofNat i), IsHex v.toNat (UInt8.ofNat i) := by
    decide +kernel
  have same : UInt8.ofNat b.toNat = b := UInt8.ofNat_toNat
  have := all b.toNat b.toNat_lt v
  rw [same] at this
  exact this digit

lemma decodeBytes_plain (plain : IsPlain b) (raw : List UInt8) :
    decodeBytes (b :: raw) = b :: decodeBytes raw := by
  obtain ⟨no_percent, -, no_plus⟩ := plain
  rw [decodeBytes]
  · exact no_plus
  · exact fun _ _ _ same _ => no_percent same

/-- Decoding undoes every encoding. -/
lemma Encodes.decodeBytes_eq (encodes : Encodes bytes raw) : decodeBytes raw = bytes := by
  induction encodes with
  | nil => rfl
  | plain plain _ ih => rw [decodeBytes_plain plain, ih]
  | blank _ ih => rw [decodeBytes, ih]
  | percent high low _ ih =>
    rw [decodeBytes, digit?_of_isHex high, digit?_of_isHex low]
    simp [ih]

/-- What is decoded to plain bytes encodes them. -/
lemma encodes_decodeBytes (plain : ∀ b ∈ decodeBytes raw, IsPlain b) :
    Encodes (decodeBytes raw) raw := by
  fun_induction decodeBytes raw with
  | case1 => exact .nil
  | case2 rest ih => exact .blank (ih fun b mem => plain b (.tail _ mem))
  | case3 h l rest high low low_digit high_digit ih =>
    have value : high * 16 + low = UInt8.ofNat (high.toNat * 16 + low.toNat) := by simp
    rw [value]
    exact .percent (isHex_of_digit? high_digit) (isHex_of_digit? low_digit)
      (ih fun b mem => plain b (.tail _ mem))
  | case4 h l rest other ih => exact absurd rfl (plain 0x25 List.mem_cons_self).1
  | case5 b rest _ _ ih =>
    obtain ⟨first, others⟩ := List.forall_mem_cons.1 plain
    exact .plain first (ih others)

/-- The encoding that writes letters, digits and four marks as they are, and a blank as a plus. -/
def encode (bytes : List UInt8) : List UInt8 :=
  bytes.flatMap fun b =>
    if (Char.ofNat b.toNat).isAlphanum ∨ b ∈ Text.utf8 "*-._".toList then [b]
    else if b = 0x20 then [0x2B]
    else
      let digit (n : Nat) := UInt8.ofNat (Nat.digitChar n).toUpper.toNat
      [0x25, digit (b.toNat / 16), digit (b.toNat % 16)]

lemma encodes_encode (bytes : List UInt8) : Encodes bytes (encode bytes) := by
  induction bytes with
  | nil => exact .nil
  | cons b bytes ih =>
    rw [encode, List.flatMap_cons]
    split
    · next kept =>
      refine .plain ?_ ih
      unfold IsPlain
      refine ⟨?_, ?_, ?_⟩ <;> rintro rfl <;> exact absurd kept (by decide)
    · split
      · next blank =>
        subst blank
        exact .blank ih
      · have value : b = UInt8.ofNat (b.toNat / 16 * 16 + b.toNat % 16) := by
          rw [Nat.div_add_mod', UInt8.ofNat_toNat]
        have few : b.toNat / 16 < 16 := Nat.div_lt_of_lt_mul b.toNat_lt
        have high : IsHex (b.toNat / 16) _ := ⟨few, .inr rfl⟩
        have low : IsHex (b.toNat % 16) _ := ⟨Nat.mod_lt _ (by decide), .inr rfl⟩
        have whole := Encodes.percent high low ih
        rw [← value] at whole
        exact whole

/-! ## Parameters -/

/-- The bytes in front of the first equals sign encode the name. -/
def Names (name : String) (p : List UInt8) : Prop :=
  Encodes (Text.utf8 name.toList) (p.takeWhile (· ≠ 0x3D))

/-- The parameter has this name, and this value behind the equals sign. Without one the value is
empty. -/
structure Gives (name value : String) (p : List UInt8) : Prop where
  names : Names name p
  value : Encodes (Text.utf8 value.toList) (p.dropWhile (· ≠ 0x3D)).tail

/-- An encoded text is decoded to itself. -/
lemma decode_of_encodes {text : String} (encodes : Encodes (Text.utf8 text.toList) raw) :
    decode raw = text := by
  rw [decode, encodes.decodeBytes_eq, Text.decodeReplacing_utf8, String.ofList_toList]

/-- The word is made of basic characters that may stand for themselves. -/
structure IsWord (word : String) : Prop where
  filled : word ≠ ""
  basic : Text.IsBasic word.toList
  plain : ∀ b ∈ Text.utf8 word.toList, IsPlain b

/-- What is decoded to a word encodes the word. -/
lemma IsWord.encodes {word : String} (is_word : IsWord word) (decoded : decode raw = word) :
    Encodes (Text.utf8 word.toList) raw := by
  have text : Text.decodeReplacing (decodeBytes raw) = word.toList := by
    rw [← decoded, decode, String.toList_ofList]
  have whole := Text.eq_utf8_of_decodeReplacing is_word.basic text
  have plain := is_word.plain
  rw [← whole] at plain ⊢
  exact encodes_decodeBytes plain

/-- A parameter is read as its name and its value. -/
lemma pair_eq (p : List UInt8) :
    pair p = (decode (p.takeWhile (· ≠ 0x3D)), decode (p.dropWhile (· ≠ 0x3D)).tail) := by
  have behind : p.drop (p.takeWhile (· ≠ 0x3D)).length = p.dropWhile (· ≠ 0x3D) := by
    calc p.drop (p.takeWhile (· ≠ 0x3D)).length
        = (p.takeWhile (· ≠ 0x3D) ++ p.dropWhile (· ≠ 0x3D)).drop
            (p.takeWhile (· ≠ 0x3D)).length := by rw [List.takeWhile_append_dropWhile]
      _ = p.dropWhile (· ≠ 0x3D) := List.drop_left
  rw [pair, ← List.tail_drop, behind]

lemma Gives.pair_eq {name value : String} {p : List UInt8} (gives : Gives name value p) :
    pair p = (name, value) := by
  rw [Form.pair_eq, decode_of_encodes gives.names, decode_of_encodes gives.value]

/-- A parameter is read with a word as its name exactly if it has this name. -/
lemma IsWord.pair_fst_iff {word : String} (is_word : IsWord word) (p : List UInt8) :
    (pair p).1 = word ↔ Names word p := by
  rw [Form.pair_eq]
  exact ⟨is_word.encodes, decode_of_encodes⟩

/-! ## Queries -/

lemma pieces_of_plain {separator : UInt8} {p : List UInt8} (plain : separator ∉ p) :
    pieces separator p = [p] := by
  induction p with
  | nil => rfl
  | cons b p ih =>
    rw [List.mem_cons, not_or] at plain
    rw [pieces, if_neg (Ne.symm plain.1), ih plain.2]

/-- The first piece ends at the first separator. -/
lemma pieces_cut {separator : UInt8} {p : List UInt8} (plain : separator ∉ p) (rest : List UInt8) :
    pieces separator (p ++ separator :: rest) = p :: pieces separator rest := by
  induction p with
  | nil => rw [List.nil_append, pieces, if_pos rfl]
  | cons b p ih =>
    rw [List.mem_cons, not_or] at plain
    rw [List.cons_append, pieces, if_neg (Ne.symm plain.1), ih plain.2]

/-- The query is these parameters with ampersands between them. -/
structure Joins (query : String) (params : List (List UInt8)) : Prop where
  bytes : Text.utf8 query.toList = List.intercalate [0x26] params
  plain : ∀ p ∈ params, 0x26 ∉ p

/-- Joined pieces are cut apart again. -/
lemma pieces_intercalate {separator : UInt8} {params : List (List UInt8)}
    (plain : ∀ p ∈ params, separator ∉ p) (filled : params ≠ []) :
    pieces separator (List.intercalate [separator] params) = params := by
  induction params with
  | nil => exact absurd rfl filled
  | cons p params ih =>
    obtain ⟨first, others⟩ := List.forall_mem_cons.1 plain
    cases params with
    | nil => rw [List.intercalate_singleton, pieces_of_plain first]
    | cons q params =>
      rw [List.intercalate_cons_cons, List.append_assoc, List.singleton_append, pieces_cut first,
        ih others (List.cons_ne_nil q params)]

/-- A query is read as its parameters, of which the empty ones are left out. -/
lemma Joins.pairs_eq {query : String} {params : List (List UInt8)} (joins : Joins query params) :
    pairs query = (params.filter (· ≠ [])).map pair := by
  rw [pairs, joins.bytes]
  cases params with
  | nil => rfl
  | cons p params => rw [pieces_intercalate joins.plain (List.cons_ne_nil p params)]

section Single

variable {word value query : String} {params before middle after : List (List UInt8)}
  {p q : List UInt8}

/-- The fields with a name are those of the parameters that have it. -/
lemma IsWord.filter_pairs (is_word : IsWord word) (joins : Joins query params) :
    (pairs query).filter (·.1 = word) = (params.filter fun p => (pair p).1 = word).map pair := by
  have empty : (pair []).1 ≠ word := by
    have nameless : (pair []).1 = "" := by
      rw [Form.pair_eq]
      exact decode_of_encodes .nil
    rw [nameless]
    exact Ne.symm is_word.filled
  rw [joins.pairs_eq, List.filter_map, List.filter_filter]
  congr 1
  refine List.filter_congr fun p _ => ?_
  by_cases nothing : p = []
  · subst nothing
    simp [empty]
  · simp [nothing]

lemma single_of_filter_nil {fields : List (String × String)}
    (named : fields.filter (·.1 = word) = []) : single word fields = .ok none := by
  rw [single, named]

lemma single_of_filter_singleton {fields : List (String × String)}
    (named : fields.filter (·.1 = word) = [(word, value)]) :
    single word fields = .ok (some value) := by
  rw [single, named]

lemma single_of_two_le {fields : List (String × String)}
    (named : 2 ≤ (fields.filter (·.1 = word)).length) : single word fields = .error () := by
  rw [single]
  split
  · next nothing => simp [nothing] at named
  · next one => simp [one] at named
  · rfl

/-- Parameters with other names are no fields of this name. -/
lemma IsWord.filter_others (is_word : IsWord word) (others : ∀ p ∈ params, ¬Names word p) :
    (params.filter fun p => (pair p).1 = word) = [] := by
  rw [List.filter_eq_nil_iff]
  intro p mem
  rw [decide_eq_true_iff, is_word.pair_fst_iff]
  exact others p mem

/-- A field that no parameter names is not given. -/
lemma IsWord.single_none (is_word : IsWord word) (joins : Joins query params)
    (others : ∀ p ∈ params, ¬Names word p) : single word (pairs query) = .ok none := by
  apply single_of_filter_nil
  rw [is_word.filter_pairs joins, is_word.filter_others others, List.map_nil]

/-- A field that one parameter names has the value of this one. -/
lemma IsWord.single_one (is_word : IsWord word) (joins : Joins query (before ++ p :: after))
    (gives : Gives word value p) (others : ∀ q ∈ before ++ after, ¬Names word q) :
    single word (pairs query) = .ok (some value) := by
  have front := is_word.filter_others fun q mem => others q (List.mem_append_left after mem)
  have back := is_word.filter_others fun q mem => others q (List.mem_append_right before mem)
  apply single_of_filter_singleton
  rw [is_word.filter_pairs joins, List.filter_append, front, List.filter_cons, back, gives.pair_eq]
  simp [gives.pair_eq]

/-- A field that two parameters name is refused. -/
lemma IsWord.single_two (is_word : IsWord word)
    (joins : Joins query (before ++ p :: middle ++ q :: after)) (first : Names word p)
    (second : Names word q) : single word (pairs query) = .error () := by
  rw [← is_word.pair_fst_iff] at first second
  apply single_of_two_le
  rw [is_word.filter_pairs joins, List.length_map]
  simp only [List.filter_append, List.filter_cons, first, second, decide_true, if_true,
    List.length_append, List.length_cons]
  omega

end Single

end SoakRig.Http.Form
