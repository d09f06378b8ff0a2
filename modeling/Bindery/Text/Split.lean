/-
Module: Bindery.Text.Split
Layer: Text
Purpose: The pieces of a text between occurrences of a separator. There is always at least one.
Imports: none
Main exports: piecesBetween
-/

namespace Bindery.Text

/-- The pieces of a text between separators, empty ones included. -/
def piecesBetween (separator : Char) : List Char → List (List Char)
  | [] => [[]]
  | c :: rest =>
    if c = separator then [] :: piecesBetween separator rest
    else match piecesBetween separator rest with
      | [] => [[c]]
      | piece :: more => (c :: piece) :: more

/-- There is always a piece. -/
theorem piecesBetween_ne_nil (separator : Char) (text : List Char) :
    piecesBetween separator text ≠ [] := by
  cases text with
  | nil => simp [piecesBetween]
  | cons c rest =>
    simp only [piecesBetween]
    split
    · simp
    · split <;> simp

end Bindery.Text
