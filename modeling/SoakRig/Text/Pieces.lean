/-!
# Texts in pieces

A text cut at every occurrence of one character, or a row of bytes at every occurrence of one byte.
There is always one piece more than cuts.
-/

namespace SoakRig.Text

variable {α : Type} [DecidableEq α]

/-- The pieces of a text between the separators. -/
def pieces (separator : α) : List α → List (List α)
  | [] => [[]]
  | c :: cs =>
    if c = separator then [] :: pieces separator cs
    else
      match pieces separator cs with
      | [] => [[c]]
      | piece :: rest => (c :: piece) :: rest

/-- Text without a separator in front of a text lengthens the first piece. -/
theorem pieces_front {separator : α} {front : List α} (plain : separator ∉ front)
    (text : List α) : ∃ piece rest, pieces separator text = piece :: rest ∧
      pieces separator (front ++ text) = (front ++ piece) :: rest := by
  induction front with
  | nil =>
    cases cut : pieces separator text with
    | nil =>
      cases text with
      | nil => cases cut
      | cons c cs =>
        simp only [pieces] at cut
        split at cut
        · cases cut
        · split at cut <;> cases cut
    | cons piece rest => exact ⟨piece, rest, rfl, cut⟩
  | cons c front ih =>
    rw [List.mem_cons, not_or] at plain
    obtain ⟨other, plain⟩ := plain
    obtain ⟨piece, rest, cut, longer⟩ := ih plain
    refine ⟨piece, rest, cut, ?_⟩
    rw [List.cons_append, pieces, if_neg (Ne.symm other), longer]
    rfl

/-- A text without a separator is one piece. -/
theorem pieces_of_plain {separator : α} {text : List α} (plain : separator ∉ text) :
    pieces separator text = [text] := by
  obtain ⟨piece, rest, cut, longer⟩ := pieces_front plain []
  cases cut
  simpa using longer

/-- The first piece ends at the first separator. -/
theorem pieces_cut {separator : α} {piece : List α} (plain : separator ∉ piece)
    (rest : List α) :
    pieces separator (piece ++ separator :: rest) = piece :: pieces separator rest := by
  obtain ⟨empty, others, cut, longer⟩ := pieces_front plain (separator :: rest)
  rw [pieces, if_pos rfl] at cut
  cases cut
  simpa using longer

/-- A text with a separator in it is cut on both sides of the separator. -/
theorem pieces_append {separator : α} (front text : List α) :
    pieces separator (front ++ separator :: text) =
      pieces separator front ++ pieces separator text := by
  induction front with
  | nil => simp [pieces]
  | cons c front ih =>
    obtain ⟨piece, rest, cut, -⟩ := pieces_front (List.not_mem_nil (a := separator)) front
    rw [List.cons_append, pieces, pieces, ih, cut]
    split <;> rfl

/-- The pieces of a string between the separators. -/
def piecesOf (separator : Char) (s : String) : List String :=
  (pieces separator s.toList).map String.ofList

/-- The lines of a text: the pieces between line ends, without the empty one after the last. -/
def lines (text : List Char) : List (List Char) :=
  let all := pieces '\n' text
  if all.getLast? = some [] then all.dropLast else all

end SoakRig.Text
