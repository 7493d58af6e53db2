import Loadout.Text.Pieces

/-!
# Pieces of a text

Cutting a text at its separators puts each of its other characters into one piece. So the pieces
hold characters of the text and no separators, and characters that are no separators stay together
with what follows them.

## Main results

* `Text.length_pieces`: how many pieces there are
* `Text.mem_of_mem_pieces`: what pieces hold
* `Text.pieces_append_of_forall_not`: characters in front of a text
-/

namespace Loadout.Text

/-- A text has one piece more than separators. -/
theorem length_pieces (sep : Char → Bool) (cs : List Char) :
    (pieces sep cs).length = cs.countP sep + 1 := by
  induction cs with
  | nil => rfl
  | cons c cs ih =>
    obtain ⟨piece, more, hpieces⟩ := List.exists_cons_of_ne_nil (pieces_ne_nil sep cs)
    rw [hpieces] at ih
    cases hc : sep c with
    | true => simp [pieces, hc, hpieces, ih]
    | false => simpa [pieces, hc, hpieces] using ih

/-- The characters of a piece are characters of the text other than separators. -/
theorem mem_of_mem_pieces {sep : Char → Bool} {cs piece : List Char} (h : piece ∈ pieces sep cs)
    {c : Char} (hc : c ∈ piece) : c ∈ cs ∧ sep c = false := by
  induction cs generalizing piece with
  | nil =>
    rw [pieces, List.mem_singleton] at h
    simp [h] at hc
  | cons d cs ih =>
    have hmore {piece : List Char} (h : piece ∈ pieces sep cs) (hc : c ∈ piece) :
        c ∈ d :: cs ∧ sep c = false :=
      (ih h hc).imp_left (List.mem_cons_of_mem d)
    obtain ⟨first, more, hpieces⟩ := List.exists_cons_of_ne_nil (pieces_ne_nil sep cs)
    rw [hpieces] at hmore
    simp only [pieces, hpieces] at h
    split at h
    case isTrue =>
      rcases List.mem_cons.1 h with rfl | h
      · cases hc
      · exact hmore h hc
    case isFalse hsep =>
      rcases List.mem_cons.1 h with rfl | h
      · rcases List.mem_cons.1 hc with rfl | hc
        · exact ⟨List.mem_cons_self, by simpa using hsep⟩
        · exact hmore List.mem_cons_self hc
      · exact hmore (List.mem_cons_of_mem _ h) hc

/-- Characters that are no separators go to the first piece of what follows them. -/
theorem pieces_append_of_forall_not {sep : Char → Bool} {cs : List Char}
    (h : ∀ c ∈ cs, sep c = false) {rest piece : List Char} {more : List (List Char)}
    (hrest : pieces sep rest = piece :: more) :
    pieces sep (cs ++ rest) = (cs ++ piece) :: more := by
  induction cs with
  | nil => exact hrest
  | cons c cs ih =>
    rw [List.forall_mem_cons] at h
    simp [pieces, h.1, ih h.2]

theorem pieces_eq_singleton {sep : Char → Bool} {cs : List Char} (h : ∀ c ∈ cs, sep c = false) :
    pieces sep cs = [cs] := by
  simpa using pieces_append_of_forall_not h (show pieces sep [] = [[]] from rfl)

end Loadout.Text
