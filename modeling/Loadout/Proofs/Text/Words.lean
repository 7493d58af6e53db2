import Mathlib.Data.List.DropRight
import Mathlib.Data.List.Forall2
import Loadout.Proofs.Text.Pieces
import Loadout.Text.Normal

/-!
# Words one space apart

A text is squeezed by cutting it at its blanks and putting the words together again. Words hold
no blanks, so cutting the result gives the same words: a squeezed text is one that squeezing
leaves alone. It has no blank at either end, and between its words single spaces.

## Main definitions

* `Text.AllWords`: a list of words, none of them empty and none with a blank
* `Text.Spaced`: no blanks at either end, and single spaces in between

## Main results

* `Text.words_join`: words that are put together are found again
* `Text.spaced_join`: what words are put together to is spaced
-/

namespace Loadout.Text

open Character

/-! ### Words -/

/-- Words: none is empty and none holds a blank. -/
def AllWords (ws : List (List Char)) : Prop :=
  ∀ w ∈ ws, w ≠ [] ∧ ∀ c ∈ w, isBlank c = false

theorem allWords_words (cs : List Char) : AllWords (words cs) := by
  intro w hw
  obtain ⟨hpiece, hne⟩ := List.mem_filter.1 hw
  exact ⟨by simpa using hne, fun _ hc => (mem_of_mem_pieces hpiece hc).2⟩

theorem mem_of_mem_words {cs w : List Char} (hw : w ∈ words cs) {c : Char} (hc : c ∈ w) :
    c ∈ cs :=
  (mem_of_mem_pieces (List.mem_filter.1 hw).1 hc).1

theorem words_append_cons {c : Char} (hc : isBlank c = true) (left right : List Char) :
    words (left ++ c :: right) = words left ++ words right := by
  rw [words, pieces_append_cons hc, List.filter_append]
  rfl

theorem words_eq_singleton {w : List Char} (hne : w ≠ []) (h : ∀ c ∈ w, isBlank c = false) :
    words w = [w] := by
  simp [words, pieces_eq_singleton h, hne]

theorem join_cons_cons (glue w v : List Char) (ws : List (List Char)) :
    join glue (w :: v :: ws) = w ++ glue ++ join glue (v :: ws) := rfl

theorem join_append_singleton (glue : List Char) {ws : List (List Char)} (hne : ws ≠ [])
    (w : List Char) : join glue (ws ++ [w]) = join glue ws ++ glue ++ w := by
  induction ws with
  | nil => exact absurd rfl hne
  | cons v ws ih =>
    cases ws with
    | nil => rfl
    | cons u ws =>
      have hmore := ih (by simp)
      rw [List.cons_append] at hmore
      rw [List.cons_append, List.cons_append, join_cons_cons, hmore, join_cons_cons]
      simp

/-- Words that are put together are found again. -/
theorem words_join {ws : List (List Char)} (h : AllWords ws) : words (join [' '] ws) = ws := by
  induction ws with
  | nil => rfl
  | cons w ws ih =>
    obtain ⟨hne, hblank⟩ := h w List.mem_cons_self
    cases ws with
    | nil => exact words_eq_singleton hne hblank
    | cons v ws =>
      rw [join_cons_cons, List.append_assoc, List.singleton_append, words_append_cons (by rfl),
        words_eq_singleton hne hblank, ih fun u hu => h u (List.mem_cons_of_mem _ hu)]
      rfl

theorem squeeze_join {ws : List (List Char)} (h : AllWords ws) :
    squeeze (join [' '] ws) = join [' '] ws := by
  rw [squeeze, words_join h]

theorem mem_join {c : Char} {ws : List (List Char)} (h : c ∈ join [' '] ws) :
    c = ' ' ∨ ∃ w ∈ ws, c ∈ w := by
  induction ws with
  | nil => cases h
  | cons w ws ih =>
    cases ws with
    | nil => exact .inr ⟨w, List.mem_cons_self, h⟩
    | cons v ws =>
      rw [join_cons_cons, List.mem_append, List.mem_append, List.mem_singleton] at h
      rcases h with (h | h) | h
      · exact .inr ⟨w, List.mem_cons_self, h⟩
      · exact .inl h
      · refine (ih h).imp_right ?_
        rintro ⟨u, hu, hc⟩
        exact ⟨u, List.mem_cons_of_mem _ hu, hc⟩

/-! ### Spacing -/

/-- A text without blanks at either end whose blanks are single spaces. -/
structure Spaced (cs : List Char) : Prop where
  head : ∀ c ∈ cs.head?, isBlank c = false
  last : ∀ c ∈ cs.getLast?, isBlank c = false
  single : ∀ left c right, cs = left ++ c :: right → isBlank c = true →
    c = ' ' ∧ ∀ d ∈ right.head?, isBlank d = false

theorem head?_join {glue w : List Char} (hw : w ≠ []) (ws : List (List Char)) :
    (join glue (w :: ws)).head? = w.head? := by
  obtain ⟨c, w, rfl⟩ := List.exists_cons_of_ne_nil hw
  cases ws <;> rfl

theorem getLast?_join {glue : List Char} {ws : List (List Char)} {w : List Char} (hw : w ≠ []) :
    (join glue (ws ++ [w])).getLast? = w.getLast? := by
  cases ws with
  | nil => rfl
  | cons v ws =>
    rw [join_append_singleton glue (by simp), List.getLast?_append_of_ne_nil _ hw]

theorem AllWords.ends {ws : List (List Char)} (h : AllWords ws) {w : List Char} (hw : w ∈ ws) :
    (∀ c ∈ w.head?, isBlank c = false) ∧ ∀ c ∈ w.getLast?, isBlank c = false :=
  ⟨fun c hc => (h w hw).2 c (List.mem_of_mem_head? hc),
    fun c hc => (h w hw).2 c (List.mem_of_mem_getLast? hc)⟩

theorem single_join {ws : List (List Char)} (h : AllWords ws) {left right : List Char} {c : Char}
    (hcs : join [' '] ws = left ++ c :: right) (hc : isBlank c = true) :
    c = ' ' ∧ ∀ d ∈ right.head?, isBlank d = false := by
  induction ws generalizing left with
  | nil => simp [join] at hcs
  | cons w ws ih =>
    have hfirst := h w List.mem_cons_self
    have hword {rest : List Char} (hw : w = left ++ c :: rest) : False := by
      have := hfirst.2 c (by simp [hw])
      simp [hc] at this
    cases ws with
    | nil => exact (hword hcs).elim
    | cons v ws =>
      have hrest : AllWords (v :: ws) := fun u hu => h u (List.mem_cons_of_mem _ hu)
      rw [join_cons_cons, List.append_assoc, List.append_eq_append_iff] at hcs
      rcases hcs with ⟨before, hleft, hspace⟩ | ⟨rest, hw, hright⟩
      · -- The blank is the space after the first word, or a blank of what follows it.
        cases before with
        | nil =>
          rw [List.nil_append, List.singleton_append] at hspace
          obtain ⟨rfl, rfl⟩ := List.cons.inj hspace
          refine ⟨rfl, ?_⟩
          rw [head?_join (hrest v List.mem_cons_self).1]
          exact (hrest.ends List.mem_cons_self).1
        | cons d before => exact ih hrest (List.cons.inj hspace).2
      · cases rest with
        | nil =>
          rw [List.singleton_append] at hright
          obtain ⟨rfl, rfl⟩ := List.cons.inj hright
          refine ⟨rfl, ?_⟩
          rw [head?_join (hrest v List.mem_cons_self).1]
          exact (hrest.ends List.mem_cons_self).1
        | cons d rest =>
          obtain ⟨rfl, -⟩ := List.cons.inj hright
          exact (hword hw).elim

/-- What words are put together to is spaced. -/
theorem spaced_join {ws : List (List Char)} (h : AllWords ws) : Spaced (join [' '] ws) where
  head := by
    cases ws with
    | nil => simp [join]
    | cons w ws =>
      rw [head?_join (h w List.mem_cons_self).1]
      exact (h.ends List.mem_cons_self).1
  last := by
    rcases List.eq_nil_or_concat ws with rfl | ⟨before, w, rfl⟩
    · simp [join]
    · rw [List.concat_eq_append] at h ⊢
      have hw : w ∈ before ++ [w] := by simp
      rw [getLast?_join (h w hw).1]
      exact (h.ends hw).2
  single := fun _ _ _ => single_join h

end Loadout.Text
