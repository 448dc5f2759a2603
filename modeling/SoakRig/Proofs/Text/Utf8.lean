import Mathlib.Algebra.Ring.Nat
import Mathlib.Data.List.Infix
import SoakRig.Text.Search
import SoakRig.Text.Utf8

/-!
# What decoding keeps

Decoding with replacement reads bytes piece by piece. A basic byte is a piece of its own and becomes
the character with its number; every other piece has no basic byte in it and becomes one character
that is not basic. So a phrase of basic characters stands in the decoded text exactly if its bytes
stand in a row among the bytes, however ill-formed these are. What was encoded is decoded to itself,
and bytes that are decoded strictly are those of their text.
-/

namespace SoakRig.Text

namespace Utf8

variable {b : UInt8} {count code n : Nat} {low high : UInt8} {bytes rest : List UInt8}

/-! ## Reading one piece -/

/-- The bytes that may begin a character, as numbers. -/
lemma tails?_eq (b : UInt8) : tails? b =
    if b.toNat < 0x80 then some (0, 0x80, 0xBF)
    else if 0xC2 ≤ b.toNat ∧ b.toNat ≤ 0xDF then some (1, 0x80, 0xBF)
    else if b.toNat = 0xE0 then some (2, 0xA0, 0xBF)
    else if b.toNat = 0xED then some (2, 0x80, 0x9F)
    else if 0xE1 ≤ b.toNat ∧ b.toNat ≤ 0xEF then some (2, 0x80, 0xBF)
    else if b.toNat = 0xF0 then some (3, 0x90, 0xBF)
    else if 0xF1 ≤ b.toNat ∧ b.toNat ≤ 0xF3 then some (3, 0x80, 0xBF)
    else if b.toNat = 0xF4 then some (3, 0x80, 0x8F)
    else none := by
  unfold tails?
  simp only [UInt8.lt_iff_toNat_lt, UInt8.le_iff_toNat_le, Bool.and_eq_true, decide_eq_true_eq,
    beq_iff_eq, ← UInt8.toNat_inj]
  rfl

/-- The rows of the table of first bytes: how many bytes follow, and in which range the next one
is. -/
inductive Row (b : UInt8) : Nat → UInt8 → UInt8 → Prop where
  | one (most : b.toNat < 0x80) : Row b 0 0x80 0xBF
  | two (least : 0xC2 ≤ b.toNat) (most : b.toNat ≤ 0xDF) : Row b 1 0x80 0xBF
  -- what is below the range has a form of two bytes
  | threeLow (lead : b.toNat = 0xE0) : Row b 2 0xA0 0xBF
  -- what is above the range is a surrogate
  | threeSplit (lead : b.toNat = 0xED) : Row b 2 0x80 0x9F
  | three (least : 0xE1 ≤ b.toNat) (most : b.toNat ≤ 0xEF) (whole : b.toNat ≠ 0xED) :
      Row b 2 0x80 0xBF
  | fourLow (lead : b.toNat = 0xF0) : Row b 3 0x90 0xBF
  | four (least : 0xF1 ≤ b.toNat) (most : b.toNat ≤ 0xF3) : Row b 3 0x80 0xBF
  | fourHigh (lead : b.toNat = 0xF4) : Row b 3 0x80 0x8F

/-- What the table holds is in one of its rows. -/
lemma tails?_eq_some : tails? b = some (count, low, high) ↔ Row b count low high := by
  rw [tails?_eq]
  constructor
  · intro listed
    split_ifs at listed with one two threeLow threeSplit three fourLow four fourHigh
    all_goals cases listed
    · exact .one one
    · exact .two two.1 two.2
    · exact .threeLow threeLow
    · exact .threeSplit threeSplit
    · exact .three three.1 three.2 threeSplit
    · exact .fourLow fourLow
    · exact .four four.1 four.2
    · exact .fourHigh fourHigh
  · intro row
    cases row with
    | one most => rw [if_pos most]
    | two least most => rw [if_neg (by omega), if_pos ⟨least, most⟩]
    | threeLow lead => simp [lead]
    | threeSplit lead => simp [lead]
    | three least most whole =>
      rw [if_neg (by omega), if_neg (by omega), if_neg (by omega), if_neg whole,
        if_pos ⟨least, most⟩]
    | fourLow lead => simp [lead]
    | four least most =>
      rw [if_neg (by omega), if_neg (by omega), if_neg (by omega), if_neg (by omega),
        if_neg (by omega), if_neg (by omega), if_pos ⟨least, most⟩]
    | fourHigh lead => simp [lead]

lemma readOne_basic (basic : b < 0x80) (rest : List UInt8) :
    readOne b rest = (some b.toNat, rest) := by
  have below : b.toNat < 0x80 := UInt8.lt_iff_toNat_lt.1 basic
  rw [readOne, tails?_eq_some.2 (.one below)]
  rfl

/-- The next byte is taken if it belongs to the character. -/
lemma readTails_cons (inside : low ≤ b ∧ b ≤ high) (count code : Nat) (rest : List UInt8) :
    readTails (count + 1) low high code (b :: rest) =
      readTails count 0x80 0xBF (code * 0x40 + b.toNat % 0x40) rest := by
  rw [readTails, if_pos (by simpa using inside)]

/-- What is read behind a first byte holds no basic byte. -/
lemma exists_tails (count code : Nat) (tail : 0x80 ≤ low) (high : UInt8) (bytes : List UInt8) :
    ∃ piece, bytes = piece ++ (readTails count low high code bytes).2 ∧
      ∀ b ∈ piece, 0x80 ≤ b := by
  induction count generalizing low high code bytes with
  | zero => exact ⟨[], rfl, nofun⟩
  | succ count ih =>
    cases bytes with
    | nil => exact ⟨[], rfl, nofun⟩
    | cons b rest =>
      by_cases inside : low ≤ b ∧ b ≤ high
      · obtain ⟨piece, rest_eq, foreign⟩ :=
          ih (code * 0x40 + b.toNat % 0x40) (UInt8.le_refl 0x80) 0xBF rest
        rw [readTails_cons inside]
        refine ⟨b :: piece, congrArg (b :: ·) rest_eq, ?_⟩
        exact List.forall_mem_cons.2 ⟨UInt8.le_trans tail inside.1, foreign⟩
      · rw [readTails, if_neg (by simpa using inside)]
        exact ⟨[], rfl, nofun⟩

/-- Each byte that is read adds six bits. -/
lemma bounds_readTails (read : (readTails count low high code bytes).1 = some n) :
    code * 0x40 ^ count ≤ n ∧ n < (code + 1) * 0x40 ^ count := by
  induction count generalizing low high code bytes with
  | zero =>
    cases read
    omega
  | succ count ih =>
    cases bytes with
    | nil => cases read
    | cons b rest =>
      by_cases inside : low ≤ b ∧ b ≤ high
      · rw [readTails_cons inside] at read
        obtain ⟨lower, upper⟩ := ih read
        have few : b.toNat % 0x40 + 1 ≤ 0x40 := Nat.mod_lt _ (by decide)
        rw [Nat.pow_succ']
        constructor
        · calc code * (0x40 * 0x40 ^ count)
              = code * 0x40 * 0x40 ^ count := (Nat.mul_assoc ..).symm
            _ ≤ (code * 0x40 + b.toNat % 0x40) * 0x40 ^ count :=
              Nat.mul_le_mul_right _ (Nat.le_add_right ..)
            _ ≤ n := lower
        · calc n < (code * 0x40 + b.toNat % 0x40 + 1) * 0x40 ^ count := upper
            _ ≤ (code * 0x40 + 0x40) * 0x40 ^ count :=
              Nat.mul_le_mul_right _ (Nat.add_le_add_left few _)
            _ = (code + 1) * (0x40 * 0x40 ^ count) := by
              rw [← Nat.mul_assoc, Nat.succ_mul code]
      · rw [readTails, if_neg (by simpa using inside)] at read
        cases read

/-- The number of a character that is no basic one. -/
def IsForeign (n : Nat) : Prop := 0x80 ≤ n ∧ n.isValidChar

/-- A character of several bytes is no basic one: that is what the ranges of the second byte are
for. -/
lemma isForeign_of_tails (tails : tails? b = some (count + 1, low, high)) {t : UInt8}
    (inside : low ≤ t ∧ t ≤ high)
    (lower : (payload b (count + 1) * 0x40 + t.toNat % 0x40) * 0x40 ^ count ≤ n)
    (upper : n < (payload b (count + 1) * 0x40 + t.toNat % 0x40 + 1) * 0x40 ^ count) :
    IsForeign n := by
  simp only [UInt8.le_iff_toNat_le] at inside
  unfold IsForeign Nat.isValidChar
  cases tails?_eq_some.1 tails <;> simp only [payload, UInt8.reduceToNat] at * <;> omega

/-- A byte that is not basic begins a character that is not basic. -/
lemma isForeign_readOne (foreign : 0x80 ≤ b) (read : (readOne b rest).1 = some n) :
    IsForeign n := by
  unfold readOne at read
  cases tails : tails? b with
  | none =>
    rw [tails] at read
    cases read
  | some table =>
    obtain ⟨count, low, high⟩ := table
    rw [tails] at read
    simp only at read
    cases count with
    | zero =>
      have above : 0x80 ≤ b.toNat := UInt8.le_iff_toNat_le.1 foreign
      cases tails?_eq_some.1 tails with
      | one most => exact absurd above (Nat.not_le.2 most)
    | succ count =>
      cases rest with
      | nil => cases read
      | cons t rest =>
        by_cases inside : low ≤ t ∧ t ≤ high
        · rw [readTails_cons inside] at read
          obtain ⟨lower, upper⟩ := bounds_readTails read
          exact isForeign_of_tails tails inside lower upper
        · rw [readTails, if_neg (by simpa using inside)] at read
          cases read

/-- The least byte that may follow a first byte is not basic. -/
lemma le_of_tails (tails : tails? b = some (count, low, high)) : 0x80 ≤ low := by
  cases tails?_eq_some.1 tails <;> decide

/-- What is read with a first byte holds no basic byte. -/
lemma exists_piece (b : UInt8) (rest : List UInt8) :
    ∃ piece, rest = piece ++ (readOne b rest).2 ∧ ∀ t ∈ piece, 0x80 ≤ t := by
  unfold readOne
  cases tails : tails? b with
  | none => exact ⟨[], rfl, nofun⟩
  | some table => exact exists_tails _ _ (le_of_tails tails) _ _

/-! ## Piece by piece -/

/-- What is decoded later does not depend on what was decoded before. -/
lemma decodeOnto_eq (done : List Char) (bytes : List UInt8) :
    decodeOnto done bytes = done.reverse ++ decodeReplacing bytes := by
  induction e : bytes.length using Nat.strong_induction_on generalizing done bytes with
  | _ n ih =>
    subst e
    cases bytes with
    | nil => simp [decodeReplacing, decodeOnto]
    | cons b rest =>
      have shorter := Nat.lt_succ_of_le (length_readOne b rest)
      rw [decodeReplacing, decodeOnto, decodeOnto]
      rw [ih _ shorter _ _ rfl, ih _ shorter _ _ rfl]
      simp

lemma decodeReplacing_cons (b : UInt8) (rest : List UInt8) :
    decodeReplacing (b :: rest) = ((readOne b rest).1.map Char.ofNat).getD replacement ::
      decodeReplacing (readOne b rest).2 := by
  rw [decodeReplacing, decodeOnto, decodeOnto_eq]
  rfl

end Utf8

open Utf8

variable {c : Char} {phrase text : List Char} {b : UInt8} {bytes rest : List UInt8}

lemma toNat_ofNat_of_valid {n : Nat} (valid : n.isValidChar) : (Char.ofNat n).toNat = n := by
  rw [Char.ofNat, dif_pos valid]
  rfl

lemma decodeReplacing_basic (basic : b < 0x80) (rest : List UInt8) :
    decodeReplacing (b :: rest) = Char.ofNat b.toNat :: decodeReplacing rest := by
  rw [decodeReplacing_cons, readOne_basic basic]
  rfl

/-- A byte that is not basic begins a piece without basic bytes, which is decoded to one character
that is not basic. -/
lemma decodeReplacing_foreign (foreign : 0x80 ≤ b) (rest : List UInt8) :
    ∃ piece others c, rest = piece ++ others ∧ (∀ t ∈ piece, 0x80 ≤ t) ∧ 0x80 ≤ c.toNat ∧
      decodeReplacing (b :: rest) = c :: decodeReplacing others := by
  obtain ⟨piece, whole, tails⟩ := exists_piece b rest
  refine ⟨piece, _, _, whole, tails, ?_, decodeReplacing_cons b rest⟩
  cases read : (readOne b rest).1 with
  | none => decide
  | some n =>
    obtain ⟨above, valid⟩ := isForeign_readOne foreign read
    rwa [Option.map_some, Option.getD_some, toNat_ofNat_of_valid valid]

@[simp] lemma decodeReplacing_nil : decodeReplacing [] = [] := by
  rw [decodeReplacing, decodeOnto]
  rfl

/-- Induction on bytes, piece by piece. -/
@[elab_as_elim]
lemma decode_induct {P : List UInt8 → Prop} (bytes : List UInt8) (nil : P [])
    (basic : ∀ b rest, b < 0x80 → P rest → P (b :: rest))
    (foreign : ∀ b piece rest c, (∀ t ∈ b :: piece, 0x80 ≤ t) → 0x80 ≤ c.toNat →
      decodeReplacing (b :: piece ++ rest) = c :: decodeReplacing rest → P rest →
      P (b :: piece ++ rest)) : P bytes := by
  induction e : bytes.length using Nat.strong_induction_on generalizing bytes with
  | _ n ih =>
    subst e
    cases bytes with
    | nil => exact nil
    | cons b rest =>
      by_cases below : b < 0x80
      · exact basic b rest below (ih _ (Nat.lt_succ_self _) rest rfl)
      · have above : 0x80 ≤ b := UInt8.not_lt.1 below
        obtain ⟨piece, others, c, rfl, tails, beyond, decoded⟩ := decodeReplacing_foreign above rest
        have shorter : others.length < (b :: (piece ++ others)).length := by
          rw [List.length_cons, List.length_append]
          omega
        exact foreign b piece others c (List.forall_mem_cons.2 ⟨above, tails⟩) beyond decoded
          (ih _ shorter others rfl)

/-! ## Phrases of basic characters -/

/-- All characters are basic ones. -/
def IsBasic (phrase : List Char) : Prop := ∀ c ∈ phrase, c.toNat < 0x80

lemma isBasic_of_all (all : phrase.all (·.toNat < 0x80)) : IsBasic phrase := by
  simpa [IsBasic] using all

lemma utf8_cons (basic : c.toNat < 0x80) (text : List Char) :
    utf8 (c :: text) = UInt8.ofNat c.toNat :: utf8 text := by
  have least : c.val.toNat ≤ 127 := Nat.le_of_lt_succ basic
  rw [utf8, List.flatMap_cons, String.utf8EncodeChar, if_pos least]
  rfl

lemma toNat_ofNat_of_basic (basic : c.toNat < 0x80) : (UInt8.ofNat c.toNat).toNat = c.toNat :=
  UInt8.toNat_ofNat_of_lt' (Nat.lt_trans basic (by decide))

/-- A basic character and a basic byte are the same if one is the other's number. -/
lemma eq_ofNat_iff (basic : c.toNat < 0x80) (below : b < 0x80) :
    c = Char.ofNat b.toNat ↔ UInt8.ofNat c.toNat = b := by
  have below : b.toNat < 0x80 := UInt8.lt_iff_toNat_lt.1 below
  have valid : b.toNat.isValidChar := .inl (by omega)
  rw [← Char.toNat_inj, toNat_ofNat_of_valid valid, ← UInt8.toNat_inj, toNat_ofNat_of_basic basic]

/-- A basic character is no byte that is not basic. -/
lemma ofNat_ne_foreign (basic : c.toNat < 0x80) (foreign : 0x80 ≤ b) :
    UInt8.ofNat c.toNat ≠ b := by
  rintro rfl
  have above := UInt8.le_iff_toNat_le.1 foreign
  rw [toNat_ofNat_of_basic basic] at above
  exact Nat.not_le.2 basic above

/-- A basic character is in a text of such exactly if its byte is in the bytes. -/
lemma ofNat_mem_utf8_iff (basic : IsBasic phrase) (own : c.toNat < 0x80) :
    UInt8.ofNat c.toNat ∈ utf8 phrase ↔ c ∈ phrase := by
  induction phrase with
  | nil => simp [utf8]
  | cons d phrase ih =>
    obtain ⟨first, rest⟩ := List.forall_mem_cons.1 basic
    have same : UInt8.ofNat c.toNat = UInt8.ofNat d.toNat ↔ c = d := by
      rw [← UInt8.toNat_inj, toNat_ofNat_of_basic own, toNat_ofNat_of_basic first, Char.toNat_inj]
    rw [utf8_cons first, List.mem_cons, List.mem_cons, ih rest, same]

/-- A phrase of basic characters is the start of the decoded text exactly if its bytes are the start
of the bytes. -/
lemma prefix_decodeReplacing_iff (basic : IsBasic phrase) (bytes : List UInt8) :
    phrase <+: decodeReplacing bytes ↔ utf8 phrase <+: bytes := by
  induction bytes using decode_induct generalizing phrase with
  | nil =>
    cases phrase with
    | nil => exact iff_of_true List.nil_prefix List.nil_prefix
    | cons c phrase => simp [utf8_cons (basic c List.mem_cons_self)]
  | basic b rest below ih =>
    cases phrase with
    | nil => exact iff_of_true List.nil_prefix List.nil_prefix
    | cons c phrase =>
      obtain ⟨first, others⟩ := List.forall_mem_cons.1 basic
      rw [decodeReplacing_basic below, utf8_cons first, List.cons_prefix_cons,
        List.cons_prefix_cons, eq_ofNat_iff first below, ih others]
  | foreign b piece rest d tails above decoded ih =>
    cases phrase with
    | nil => exact iff_of_true List.nil_prefix List.nil_prefix
    | cons c phrase =>
      have first := basic c List.mem_cons_self
      have other : c ≠ d := by
        rintro rfl
        omega
      rw [decoded, utf8_cons first, List.cons_append, List.cons_prefix_cons, List.cons_prefix_cons]
      exact iff_of_false (fun h => other h.1)
        fun h => ofNat_ne_foreign first (tails b List.mem_cons_self) h.1

/-- The bytes of a phrase of basic characters do not begin within a piece that has none. -/
lemma infix_append_iff {piece : List UInt8} (filled : phrase ≠ []) (basic : IsBasic phrase)
    (foreign : ∀ b ∈ piece, 0x80 ≤ b) (rest : List UInt8) :
    utf8 phrase <:+: piece ++ rest ↔ utf8 phrase <:+: rest := by
  obtain ⟨c, phrase, rfl⟩ := List.exists_cons_of_ne_nil filled
  have first := basic c List.mem_cons_self
  induction piece with
  | nil => rfl
  | cons b piece ih =>
    obtain ⟨above, others⟩ := List.forall_mem_cons.1 foreign
    have away : ¬utf8 (c :: phrase) <+: b :: (piece ++ rest) := by
      rw [utf8_cons first, List.cons_prefix_cons]
      exact fun h => ofNat_ne_foreign first above h.1
    rw [List.cons_append, List.infix_cons_iff]
    exact (or_iff_right away).trans (ih others)

/-- A phrase of basic characters stands in the decoded text exactly if its bytes stand in a row
among the bytes: decoding neither hides it nor makes one. -/
lemma infix_decodeReplacing_iff (basic : IsBasic phrase) (bytes : List UInt8) :
    phrase <:+: decodeReplacing bytes ↔ utf8 phrase <:+: bytes := by
  cases phrase with
  | nil => exact iff_of_true List.nil_infix List.nil_infix
  | cons c phrase =>
    have first := basic c List.mem_cons_self
    induction bytes using decode_induct with
    | nil => simp [utf8_cons first]
    | basic b rest below ih =>
      have start := prefix_decodeReplacing_iff basic (b :: rest)
      rw [decodeReplacing_basic below] at start ⊢
      rw [List.infix_cons_iff, List.infix_cons_iff]
      exact or_congr start ih
    | foreign b piece rest d tails above decoded ih =>
      have away : ¬(c :: phrase) <+: d :: decodeReplacing rest := by
        rw [List.cons_prefix_cons]
        rintro ⟨rfl, -⟩
        omega
      have behind := infix_append_iff (List.cons_ne_nil c phrase) basic tails rest
      rw [decoded, List.infix_cons_iff]
      exact (or_iff_right away).trans (ih.trans behind.symm)

/-- Bytes that are decoded to basic characters only are the bytes of these. -/
lemma eq_utf8_of_decodeReplacing (basic : IsBasic text) (decoded : decodeReplacing bytes = text) :
    bytes = utf8 text := by
  induction bytes using decode_induct generalizing text with
  | nil =>
    rw [decodeReplacing_nil] at decoded
    rw [← decoded]
    rfl
  | basic b rest below ih =>
    rw [decodeReplacing_basic below] at decoded
    subst decoded
    obtain ⟨first, others⟩ := List.forall_mem_cons.1 basic
    rw [utf8_cons first, (eq_ofNat_iff first below).1 rfl, ← ih others rfl]
  | foreign b piece rest d tails above whole ih =>
    rw [whole] at decoded
    subst decoded
    exact absurd (basic d List.mem_cons_self) (Nat.not_lt.2 above)

/-! ## Decoding what was encoded -/

namespace Utf8

variable {first : UInt8} {v : Nat}

lemma toNat_tail (n : Nat) : (UInt8.ofNat (n % 0x40 + 0x80)).toNat = n % 0x40 + 0x80 :=
  UInt8.toNat_ofNat_of_lt' (by rw [UInt8.size]; omega)

lemma toNat_tail_mod (n : Nat) : (UInt8.ofNat (n % 0x40 + 0x80)).toNat % 0x40 = n % 0x40 := by
  rw [toNat_tail]
  omega

/-- A byte with six bits of a character is taken wherever any such byte may stand. -/
lemma readTails_tail (count code n : Nat) (rest : List UInt8) :
    readTails (count + 1) 0x80 0xBF code (UInt8.ofNat (n % 0x40 + 0x80) :: rest) =
      readTails count 0x80 0xBF (code * 0x40 + n % 0x40) rest := by
  have inside : 0x80 ≤ UInt8.ofNat (n % 0x40 + 0x80) ∧ UInt8.ofNat (n % 0x40 + 0x80) ≤ 0xBF := by
    simp only [UInt8.le_iff_toNat_le, toNat_tail, UInt8.reduceToNat]
    omega
  rw [readTails_cons inside, toNat_tail_mod]

/-- The first byte of a character of three bytes allows the second one. -/
lemma tails?_three (lead : b.toNat = v / 0x1000 + 0xE0)
    (next : first.toNat = v / 0x40 % 0x40 + 0x80) (least : 0x7FF < v) (most : v ≤ 0xFFFF)
    (valid : v.isValidChar) :
    ∃ low high, tails? b = some (2, low, high) ∧ low ≤ first ∧ first ≤ high := by
  unfold Nat.isValidChar at valid
  simp only [tails?_eq_some, UInt8.le_iff_toNat_le]
  by_cases low : b.toNat = 0xE0
  · refine ⟨_, _, .threeLow low, ?_⟩
    simp only [UInt8.reduceToNat]
    omega
  by_cases split : b.toNat = 0xED
  · refine ⟨_, _, .threeSplit split, ?_⟩
    simp only [UInt8.reduceToNat]
    omega
  · refine ⟨_, _, .three (by omega) (by omega) split, ?_⟩
    simp only [UInt8.reduceToNat]
    omega

/-- The first byte of a character of four bytes allows the second one. -/
lemma tails?_four (lead : b.toNat = v / 0x40000 + 0xF0)
    (next : first.toNat = v / 0x1000 % 0x40 + 0x80) (least : 0xFFFF < v) (valid : v.isValidChar) :
    ∃ low high, tails? b = some (3, low, high) ∧ low ≤ first ∧ first ≤ high := by
  unfold Nat.isValidChar at valid
  simp only [tails?_eq_some, UInt8.le_iff_toNat_le]
  by_cases low : b.toNat = 0xF0
  · refine ⟨_, _, .fourLow low, ?_⟩
    simp only [UInt8.reduceToNat]
    omega
  by_cases high : b.toNat = 0xF4
  · refine ⟨_, _, .fourHigh high, ?_⟩
    simp only [UInt8.reduceToNat]
    omega
  · refine ⟨_, _, .four (by omega) (by omega), ?_⟩
    simp only [UInt8.reduceToNat]
    omega

lemma readOne_two (least : 0x7F < v) (most : v ≤ 0x7FF) (rest : List UInt8) :
    readOne (UInt8.ofNat (v / 0x40 % 0x20 + 0xC0)) (UInt8.ofNat (v % 0x40 + 0x80) :: rest) =
      (some v, rest) := by
  have lead : (UInt8.ofNat (v / 0x40 % 0x20 + 0xC0)).toNat = v / 0x40 + 0xC0 := by
    rw [UInt8.toNat_ofNat']
    omega
  have tails : tails? (UInt8.ofNat (v / 0x40 % 0x20 + 0xC0)) = some (1, 0x80, 0xBF) :=
    tails?_eq_some.2 (.two (by omega) (by omega))
  have whole : (v / 0x40 + 0xC0) % 0x20 * 0x40 + v % 0x40 = v := by omega
  rw [readOne, tails]
  simp only [payload, lead]
  rw [readTails_tail, readTails, whole]

lemma readOne_three (least : 0x7FF < v) (most : v ≤ 0xFFFF) (valid : v.isValidChar)
    (rest : List UInt8) :
    readOne (UInt8.ofNat (v / 0x1000 % 0x10 + 0xE0)) (UInt8.ofNat (v / 0x40 % 0x40 + 0x80) ::
      UInt8.ofNat (v % 0x40 + 0x80) :: rest) = (some v, rest) := by
  have lead : (UInt8.ofNat (v / 0x1000 % 0x10 + 0xE0)).toNat = v / 0x1000 + 0xE0 := by
    rw [UInt8.toNat_ofNat']
    omega
  obtain ⟨low, high, tails, inside⟩ := tails?_three lead (toNat_tail (v / 0x40)) least most valid
  have whole : ((v / 0x1000 + 0xE0) % 0x10 * 0x40 + v / 0x40 % 0x40) * 0x40 + v % 0x40 = v := by
    omega
  rw [readOne, tails]
  simp only [payload, lead]
  rw [readTails_cons inside, toNat_tail_mod, readTails_tail, readTails, whole]

lemma readOne_four (least : 0xFFFF < v) (valid : v.isValidChar) (rest : List UInt8) :
    readOne (UInt8.ofNat (v / 0x40000 % 8 + 0xF0)) (UInt8.ofNat (v / 0x1000 % 0x40 + 0x80) ::
      UInt8.ofNat (v / 0x40 % 0x40 + 0x80) :: UInt8.ofNat (v % 0x40 + 0x80) :: rest) =
      (some v, rest) := by
  have most : v < 0x110000 := by
    unfold Nat.isValidChar at valid
    omega
  have lead : (UInt8.ofNat (v / 0x40000 % 8 + 0xF0)).toNat = v / 0x40000 + 0xF0 := by
    rw [UInt8.toNat_ofNat']
    omega
  obtain ⟨low, high, tails, inside⟩ := tails?_four lead (toNat_tail (v / 0x1000)) least valid
  have whole : (((v / 0x40000 + 0xF0) % 8 * 0x40 + v / 0x1000 % 0x40) * 0x40 +
      v / 0x40 % 0x40) * 0x40 + v % 0x40 = v := by
    omega
  rw [readOne, tails]
  simp only [payload, lead]
  rw [readTails_cons inside, toNat_tail_mod, readTails_tail, readTails_tail, readTails, whole]

/-- The bytes of a character are read as the character. -/
lemma readOne_utf8EncodeChar (c : Char) :
    ∃ b tails, String.utf8EncodeChar c = b :: tails ∧
      ∀ rest, readOne b (tails ++ rest) = (some c.toNat, rest) := by
  have valid : c.val.toNat.isValidChar := c.valid
  unfold String.utf8EncodeChar Char.toNat
  generalize c.val.toNat = v at valid ⊢
  dsimp only
  split_ifs with one two three
  · refine ⟨_, [], rfl, fun rest => ?_⟩
    have byte : (UInt8.ofNat v).toNat = v :=
      UInt8.toNat_ofNat_of_lt' (Nat.lt_of_le_of_lt one (by decide))
    have basic : UInt8.ofNat v < 0x80 := by
      rw [UInt8.lt_iff_toNat_lt, byte]
      exact Nat.lt_succ_of_le one
    rw [List.nil_append, readOne_basic basic, byte]
  · exact ⟨_, _, rfl, readOne_two (Nat.lt_of_not_le one) two⟩
  · exact ⟨_, _, rfl, readOne_three (Nat.lt_of_not_le two) three valid⟩
  · exact ⟨_, _, rfl, readOne_four (Nat.lt_of_not_le three) valid⟩

/-! ## What a character was read from -/

/-- A character that goes on has a next byte, which is taken. -/
lemma readTails_eq_some (read : readTails (count + 1) low high code bytes = (some n, rest)) :
    ∃ t more, bytes = t :: more ∧ (low.toNat ≤ t.toNat ∧ t.toNat ≤ high.toNat) ∧
      readTails count 0x80 0xBF (code * 0x40 + t.toNat % 0x40) more = (some n, rest) := by
  cases bytes with
  | nil => cases read
  | cons t more =>
    by_cases inside : low ≤ t ∧ t ≤ high
    · rw [readTails_cons inside] at read
      exact ⟨t, more, rfl, inside.imp UInt8.le_iff_toNat_le.1 UInt8.le_iff_toNat_le.1, read⟩
    · rw [readTails, if_neg (by simpa using inside)] at read
      cases read

/-- The bytes of the character with a number. -/
lemma utf8EncodeChar_ofNat (valid : n.isValidChar) : String.utf8EncodeChar (Char.ofNat n) =
    if n ≤ 0x7F then [UInt8.ofNat n]
    else if n ≤ 0x7FF then [UInt8.ofNat (n / 0x40 % 0x20 + 0xC0), UInt8.ofNat (n % 0x40 + 0x80)]
    else if n ≤ 0xFFFF then
      [UInt8.ofNat (n / 0x1000 % 0x10 + 0xE0), UInt8.ofNat (n / 0x40 % 0x40 + 0x80),
        UInt8.ofNat (n % 0x40 + 0x80)]
    else
      [UInt8.ofNat (n / 0x40000 % 8 + 0xF0), UInt8.ofNat (n / 0x1000 % 0x40 + 0x80),
        UInt8.ofNat (n / 0x40 % 0x40 + 0x80), UInt8.ofNat (n % 0x40 + 0x80)] := by
  have number : (Char.ofNat n).val.toNat = n := toNat_ofNat_of_valid valid
  unfold String.utf8EncodeChar
  rw [number]

lemma eq_ofNat {b : UInt8} {v : Nat} (number : v % 256 = b.toNat) : b = UInt8.ofNat v := by
  rw [← UInt8.toNat_inj, UInt8.toNat_ofNat', number]

section Read

variable (valid : n.isValidChar) (read : readOne b bytes = (some n, rest))

include valid read

lemma eq_utf8EncodeChar_two (tails : tails? b = some (1, low, high)) :
    b :: bytes = String.utf8EncodeChar (Char.ofNat n) ++ rest := by
  rw [readOne, tails] at read
  obtain ⟨t, more, rfl, inside, last⟩ := readTails_eq_some read
  cases last
  cases tails?_eq_some.1 tails
  rw [utf8EncodeChar_ofNat valid]
  simp only [payload, UInt8.reduceToNat] at inside ⊢
  rw [if_neg (by omega), if_pos (by omega), ← eq_ofNat (b := b) (by omega),
    ← eq_ofNat (b := t) (by omega)]
  rfl

lemma eq_utf8EncodeChar_three (tails : tails? b = some (2, low, high)) :
    b :: bytes = String.utf8EncodeChar (Char.ofNat n) ++ rest := by
  rw [readOne, tails] at read
  obtain ⟨t, more, rfl, inside, read⟩ := readTails_eq_some read
  obtain ⟨u, more, rfl, inside', last⟩ := readTails_eq_some read
  cases last
  have range : 0xE0 ≤ b.toNat ∧ b.toNat ≤ 0xEF ∧ 0x80 ≤ low.toNat ∧ high.toNat ≤ 0xBF ∧
      (b.toNat = 0xE0 → 0xA0 ≤ low.toNat) := by
    cases tails?_eq_some.1 tails <;> simp only [UInt8.reduceToNat] <;> omega
  rw [utf8EncodeChar_ofNat valid]
  simp only [payload, UInt8.reduceToNat] at inside' ⊢
  rw [if_neg (by omega), if_neg (by omega), if_pos (by omega), ← eq_ofNat (b := b) (by omega),
    ← eq_ofNat (b := t) (by omega), ← eq_ofNat (b := u) (by omega)]
  rfl

lemma eq_utf8EncodeChar_four (tails : tails? b = some (3, low, high)) :
    b :: bytes = String.utf8EncodeChar (Char.ofNat n) ++ rest := by
  rw [readOne, tails] at read
  obtain ⟨t, more, rfl, inside, read⟩ := readTails_eq_some read
  obtain ⟨u, more, rfl, inside', read⟩ := readTails_eq_some read
  obtain ⟨v, more, rfl, inside'', last⟩ := readTails_eq_some read
  cases last
  have range : 0xF0 ≤ b.toNat ∧ b.toNat ≤ 0xF4 ∧ 0x80 ≤ low.toNat ∧ high.toNat ≤ 0xBF ∧
      (b.toNat = 0xF0 → 0x90 ≤ low.toNat) := by
    cases tails?_eq_some.1 tails <;> simp only [UInt8.reduceToNat] <;> omega
  rw [utf8EncodeChar_ofNat valid]
  simp only [payload, UInt8.reduceToNat] at inside' inside'' ⊢
  rw [if_neg (by omega), if_neg (by omega), if_neg (by omega), ← eq_ofNat (b := b) (by omega),
    ← eq_ofNat (b := t) (by omega), ← eq_ofNat (b := u) (by omega),
    ← eq_ofNat (b := v) (by omega)]
  rfl

end Read

/-- What is read as a character are the bytes of the character. -/
lemma eq_utf8EncodeChar (read : readOne b bytes = (some n, rest)) :
    b :: bytes = String.utf8EncodeChar (Char.ofNat n) ++ rest := by
  by_cases basic : b < 0x80
  · rw [readOne_basic basic] at read
    cases read
    have below : b.toNat < 0x80 := UInt8.lt_iff_toNat_lt.1 basic
    rw [utf8EncodeChar_ofNat (.inl (by omega)), if_pos (by omega), UInt8.ofNat_toNat]
    rfl
  · have foreign : 0x80 ≤ b := UInt8.not_lt.1 basic
    have above : 0x80 ≤ b.toNat := UInt8.le_iff_toNat_le.1 foreign
    have valid := (isForeign_readOne foreign (congrArg Prod.fst read)).2
    cases tails : tails? b with
    | none =>
      rw [readOne, tails] at read
      cases read
    | some table =>
      obtain ⟨count, low, high⟩ := table
      have counts : count = 1 ∨ count = 2 ∨ count = 3 := by
        cases tails?_eq_some.1 tails with
        | one most => exact absurd above (Nat.not_le.2 most)
        | _ => simp
      obtain rfl | rfl | rfl := counts
      · exact eq_utf8EncodeChar_two valid read tails
      · exact eq_utf8EncodeChar_three valid read tails
      · exact eq_utf8EncodeChar_four valid read tails

end Utf8

/-- The bytes of a text start with those of its first character. -/
lemma utf8_cons_eq {tails : List UInt8} (encoded : String.utf8EncodeChar c = b :: tails)
    (text : List Char) : utf8 (c :: text) = b :: (tails ++ utf8 text) := by
  rw [utf8, List.flatMap_cons, encoded]
  rfl

/-- What was encoded is decoded to itself. -/
lemma decodeReplacing_utf8 (text : List Char) : decodeReplacing (utf8 text) = text := by
  induction text with
  | nil => exact decodeReplacing_nil
  | cons c text ih =>
    obtain ⟨b, tails, encoded, read⟩ := readOne_utf8EncodeChar c
    rw [utf8_cons_eq encoded, decodeReplacing_cons, read, ih, Option.map_some, Option.getD_some,
      Char.ofNat_toNat]

/-! ## Strict decoding -/

/-- What is decoded at the front and what is left make up the bytes. -/
lemma utf8_decodeFrontOnto (done : List Char) (bytes : List UInt8) :
    utf8 (decodeFrontOnto done bytes).1 ++ (decodeFrontOnto done bytes).2 =
      utf8 done.reverse ++ bytes := by
  induction e : bytes.length using Nat.strong_induction_on generalizing done bytes with
  | _ n ih =>
    subst e
    cases bytes with
    | nil => rw [decodeFrontOnto]
    | cons b rest =>
      rw [decodeFrontOnto]
      cases read : readOne b rest with
      | mk code left =>
        cases code with
        | none => rfl
        | some code =>
          have shorter : left.length < (b :: rest).length := by
            have := length_readOne b rest
            rw [read] at this
            exact Nat.lt_succ_of_le this
          simp only
          rw [ih _ shorter _ _ rfl, List.reverse_cons, utf8_append, List.append_assoc,
            eq_utf8EncodeChar read]
          simp [utf8]

/-- Bytes with a text are the bytes of the text. -/
lemma eq_utf8_of_decode? {bytes : List UInt8} {text : List Char}
    (decoded : decode? bytes = some text) : bytes = utf8 text := by
  have whole := utf8_decodeFrontOnto [] bytes
  unfold decode? decodeFront at decoded
  split at decoded
  · next front =>
    cases decoded
    rw [front] at whole
    simpa [utf8] using whole.symm
  · cases decoded

lemma decodeFrontOnto_utf8 (done text : List Char) :
    decodeFrontOnto done (utf8 text) = (done.reverse ++ text, []) := by
  induction text generalizing done with
  | nil => simp [utf8, decodeFrontOnto]
  | cons c text ih =>
    obtain ⟨b, tails, encoded, read⟩ := readOne_utf8EncodeChar c
    rw [utf8_cons_eq encoded, decodeFrontOnto, read]
    simp only
    rw [ih, Char.ofNat_toNat, List.reverse_cons, List.append_assoc]
    rfl

lemma decode?_utf8 (text : List Char) : decode? (utf8 text) = some text := by
  rw [decode?, decodeFront, decodeFrontOnto_utf8]
  rfl

lemma utf8_injective : Function.Injective utf8 := by
  intro text text' same
  have decoded : decode? (utf8 text) = decode? (utf8 text') := congrArg decode? same
  rwa [decode?_utf8, decode?_utf8, Option.some.injEq] at decoded

end SoakRig.Text
