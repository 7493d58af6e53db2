import Loadout.Character.Blank

/-!
# Cutting text into pieces

Text is cut at separator characters. Two neighbouring separators enclose an empty
piece, so a text with `n` separators has `n + 1` pieces, and joining the pieces of a
text cut at one character gives the text back. Words are the nonempty pieces between
blanks.

## Main definitions

* `pieces`: the parts between separators, empty ones included
* `join`: parts put together with a separator between neighbours
* `words`, `squeeze`: words, and words one space apart
* `trim`, `trimEnd`

## Main results

* `pieces_append_cons`: a separator splits a text into two that are cut apart
-/

namespace Loadout.Text

/-- The parts of a text between the characters that `sep` accepts, empty parts included. -/
def pieces (sep : Char → Bool) : List Char → List (List Char)
  | [] => [[]]
  | c :: rest =>
    if sep c then
      [] :: pieces sep rest
    else
      match pieces sep rest with
      | [] => [[c]]
      | piece :: more => (c :: piece) :: more

theorem pieces_ne_nil (sep : Char → Bool) (cs : List Char) : pieces sep cs ≠ [] := by
  cases cs with
  | nil => simp [pieces]
  | cons c rest =>
    simp only [pieces]
    split
    · simp
    · split <;> simp

/-- The pieces of two texts with a separator between them are those of the first and then
those of the second. -/
theorem pieces_append_cons {sep : Char → Bool} {c : Char} (h : sep c = true)
    (left right : List Char) :
    pieces sep (left ++ c :: right) = pieces sep left ++ pieces sep right := by
  induction left with
  | nil => simp [pieces, h]
  | cons d left ih =>
    simp only [List.cons_append, pieces, ih]
    split
    · simp
    · cases hp : pieces sep left with
      | nil => exact absurd hp (pieces_ne_nil sep left)
      | cons piece more => simp

/-- Parts put together with `glue` between neighbours. -/
def join (glue : List Char) : List (List Char) → List Char
  | [] => []
  | [piece] => piece
  | piece :: more => piece ++ glue ++ join glue more

/-- The words of a text: its nonempty pieces between blanks. -/
def words (cs : List Char) : List (List Char) :=
  (pieces Character.isBlank cs).filter (· ≠ [])

/-- The words of a text, one space apart. -/
def squeeze (cs : List Char) : List Char :=
  join [' '] (words cs)

/-- A text without the blanks that end it. -/
def trimEnd (cs : List Char) : List Char :=
  (cs.reverse.dropWhile Character.isBlank).reverse

/-- A text without the blanks that surround it. -/
def trim (cs : List Char) : List Char :=
  trimEnd (cs.dropWhile Character.isBlank)

end Loadout.Text
