import SoakRig.Text.Blank
import SoakRig.Text.Search

/-!
# Masking of secrets

Command lines are logged with the values of secret keys and flags starred out. For each sensitive
phrase in turn the line is searched from left to right; the value right after the phrase gives way
to stars, and the search goes on behind them.
-/

namespace SoakRig.Masking

/-- The phrases whose values are secret, in the order of the passes. -/
def sensitivePhrases : List String := [
  "BINANCE_API_KEY=", "BINANCE_API_SECRET=", "API_KEY=", "API_SECRET=", "SECRET=", "PASSWORD=",
  "TOKEN=", "--api-key ", "--api-key=", "--api-secret ", "--api-secret=", "--secret ",
  "--secret=", "--token ", "--token=", "--password ", "--password="]

/-- What stands in place of a value. -/
def stars : List Char := ['*', '*', '*']

/-- Where in a value the reader is: behind a backslash, and inside which quote. -/
structure Scanner where
  escaped : Bool
  quote : Option Char
deriving DecidableEq

namespace Scanner

def start : Scanner := ⟨false, none⟩

/-- The reader after one more character, or none if the value ends before it. -/
def next? (s : Scanner) (c : Char) : Option Scanner :=
  if s.escaped then some { s with escaped := false }
  else if c = '\\' then some { s with escaped := true }
  else
    match s.quote with
    | some q => some { s with quote := if c = q then none else some q }
    | none =>
      if c = '"' ∨ c = '\'' then some { s with quote := some c }
      else if Text.isBlank c then none
      else some s

/-- The value at the front of a text, and the text after it. -/
def split (s : Scanner) : List Char → List Char × List Char
  | [] => ([], [])
  | c :: cs =>
    match s.next? c with
    | none => ([], c :: cs)
    | some s' => (c :: (s'.split cs).1, (s'.split cs).2)

theorem split_append (s : Scanner) (text : List Char) :
    (s.split text).1 ++ (s.split text).2 = text := by
  induction text generalizing s with
  | nil => rfl
  | cons c cs ih =>
    simp only [split]
    split
    · rfl
    · next s' _ => simp [ih s']

end Scanner

/-- What follows the value at the front of a text. -/
def afterValue (text : List Char) : List Char := (Scanner.start.split text).2

theorem length_afterValue_le (text : List Char) : (afterValue text).length ≤ text.length := by
  have := congrArg List.length (Scanner.split_append .start text)
  simp only [List.length_append] at this
  unfold afterValue
  omega

/-- A line that has been searched up to some point. -/
structure Cursor where
  searched : List Char
  rest : List Char

namespace Cursor

/-- The whole line. -/
def line (c : Cursor) : List Char := c.searched ++ c.rest

/-- Stars out the value behind the next occurrence of the phrase, if there is one. -/
def round? (phrase : List Char) (c : Cursor) : Option Cursor :=
  (Text.splitFirst? phrase c.rest).map fun (before, after) =>
    ⟨c.searched ++ before ++ phrase ++ stars, afterValue after⟩

/-- A round leaves less of the line to be searched. -/
theorem length_rest_lt_of_round? {phrase : List Char} {c d : Cursor} (hp : phrase ≠ [])
    (h : c.round? phrase = some d) : d.rest.length < c.rest.length := by
  simp only [round?, Option.map_eq_some_iff, Prod.exists] at h
  obtain ⟨before, after, hs, rfl⟩ := h
  have hlen := congrArg List.length (Text.eq_append_of_splitFirst? hs)
  have hpos := List.length_pos_iff.2 hp
  have := length_afterValue_le after
  simp only [List.length_append] at hlen
  simp only
  omega

/-- Plays rounds until the phrase occurs no more. -/
def finish (phrase : List Char) (c : Cursor) : Cursor :=
  if hp : phrase = [] then c
  else
    match h : c.round? phrase with
    | none => c
    | some d =>
      have := length_rest_lt_of_round? hp h
      finish phrase d
termination_by c.rest.length

end Cursor

/-- The line with the values of one phrase starred out. -/
def pass (line phrase : List Char) : List Char := (Cursor.finish phrase ⟨[], line⟩).line

/-- The line with every secret value starred out. -/
def maskChars (line : List Char) : List Char :=
  (sensitivePhrases.map String.toList).foldl pass line

/-- The line with every secret value starred out. -/
def mask (line : String) : String := String.ofList (maskChars line.toList)

end SoakRig.Masking
