import Loadout.Proofs.Line.Cuts

/-!
# Where a phrase is found

A phrase is looked for between word boundaries, that is places where exactly one of the two
neighbours continues a word. A boundary is asked for wherever the phrase ends in a letter or a
number character, but not every number character continues a word: superscripts and fractions do
not. At such an end of a phrase the boundary is met beside a character that continues a word and
nowhere else, so the phrase is not found as whole words, and not in its own text. And a phrase that
ends in a letter is found beside a superscript, which is no part of a word.

Where every letter and number character continues a word, both are the same, and a phrase is found
exactly where it stands as whole words.

## Main definitions

* `PlainPhrase`: a phrase without numbers that ends in letters or number characters
* `StandsBounded`, `StandsWhole`: a phrase between word boundaries, and as whole words

## Main results

* `Phrase.isSome_find?_patternOf_iff`: the pattern of a phrase finds it between word boundaries
* `PhraseSet.isSome_takeFirst_iff`: where the only phrase of a set is found
-/

namespace Loadout

open Pattern Character

/-- A phrase without numbers whose first character and last character are letters or number
characters. -/
structure PlainPhrase (phrase : List Char) : Prop where
  plain : '#' ∉ phrase
  head : phrase.head?.any isAlphanumeric = true
  last : phrase.getLast?.any isAlphanumeric = true

instance (phrase : List Char) : Decidable (PlainPhrase phrase) :=
  decidable_of_iff ('#' ∉ phrase ∧ phrase.head?.any isAlphanumeric = true ∧
    phrase.getLast?.any isAlphanumeric = true)
    ⟨fun ⟨plain, head, last⟩ => ⟨plain, head, last⟩, fun h => ⟨h.plain, h.head, h.last⟩⟩

theorem PlainPhrase.ne_nil {phrase : List Char} (h : PlainPhrase phrase) : phrase ≠ [] := by
  rintro rfl
  exact Bool.noConfusion h.head

/-- A phrase stands in a text between word boundaries: at each of its ends one of the two neighbours
continues a word and the other does not. -/
def StandsBounded (phrase text : List Char) : Prop :=
  ∃ before after, text = before ++ (phrase ++ after) ∧
    before.getLast?.any isWord ≠ phrase.head?.any isWord ∧
    phrase.getLast?.any isWord ≠ after.head?.any isWord

/-- A phrase stands in a text as whole words: no character beside it continues a word or is a letter
or a number character. -/
def StandsWhole (phrase text : List Char) : Prop :=
  ∃ before after, text = before ++ (phrase ++ after) ∧
    (∀ c ∈ before.getLast?, isWord c = false ∧ isAlphanumeric c = false) ∧
    ∀ c ∈ after.head?, isWord c = false ∧ isAlphanumeric c = false

/-! ### Occurrences between word boundaries -/

/-- The pattern of a phrase leads over its text from one word boundary to another. -/
theorem PlainPhrase.leads_patternOf_iff {phrase : List Char} (h : PlainPhrase phrase)
    {skipped more : List Char} {q : Place} :
    (Phrase.patternOf phrase).Leads ⟨skipped.reverse ++ [], more, []⟩ q ↔
      ∃ after, more = phrase ++ after ∧
        skipped.getLast?.any isWord ≠ phrase.head?.any isWord ∧
        phrase.getLast?.any isWord ≠ after.head?.any isWord ∧
        q = ⟨phrase.reverse ++ skipped.reverse, after, []⟩ := by
  have hpieces : Text.pieces (· == '#') phrase = [phrase] :=
    Text.pieces_eq_singleton fun c hc => beq_eq_false_iff_ne.2 fun heq => h.plain (heq ▸ hc)
  have hstart (after : List Char) :
      Anchor.boundary.holds ⟨skipped.reverse ++ [], phrase ++ after, []⟩ = true ↔
        skipped.getLast?.any isWord ≠ phrase.head?.any isWord := by
    simp [Anchor.holds, Place.wordBefore, Place.wordAfter, List.head?_append_of_ne_nil _ h.ne_nil]
  have hend (after : List Char) :
      Anchor.boundary.holds ⟨phrase.reverse ++ skipped.reverse, after, []⟩ = true ↔
        phrase.getLast?.any isWord ≠ after.head?.any isWord := by
    simp [Anchor.holds, Place.wordBefore, Place.wordAfter,
      List.head?_append_of_ne_nil _ (List.reverse_ne_nil_iff.2 h.ne_nil)]
  simp only [Phrase.leads_patternOf, hpieces, woven_singleton, h.head, h.last, true_imp_iff]
  constructor
  · rintro ⟨hhead, hlast, _, _, after, rfl, ⟨rfl, rfl⟩, -, rfl⟩
    rw [List.append_nil] at hlast ⊢
    exact ⟨after, rfl, (hstart after).1 hhead, (hend after).1 hlast, rfl⟩
  · rintro ⟨after, rfl, hhead, hlast, rfl⟩
    exact ⟨(hstart after).2 hhead, (hend after).2 hlast, phrase, [], after, rfl, ⟨rfl, rfl⟩,
      by simp, by simp [numberCaptures]⟩

/-- The pattern of a phrase finds it where it stands between word boundaries. -/
theorem Phrase.isSome_find?_patternOf_iff {phrase : List Char} (h : PlainPhrase phrase)
    {text : List Char} :
    ((patternOf phrase).find? text).isSome ↔ StandsBounded phrase text := by
  rw [Option.isSome_iff_ne_none, find?, ne_eq, findAfter?_eq_none_iff]
  simp only [not_forall, exists_prop, not_not, h.leads_patternOf_iff]
  constructor
  · rintro ⟨skipped, _, _, rfl, after, rfl, hhead, hlast, -⟩
    exact ⟨skipped, after, rfl, hhead, hlast⟩
  · rintro ⟨before, after, rfl, hhead, hlast⟩
    exact ⟨before, _, _, rfl, after, rfl, hhead, hlast, rfl⟩

/-! ### Whole words -/

/-- A phrase stands between word boundaries in its own text when it begins and ends with characters
that continue a word. -/
theorem standsBounded_self_iff {phrase : List Char} :
    StandsBounded phrase phrase ↔
      phrase.head?.any isWord = true ∧ phrase.getLast?.any isWord = true := by
  constructor
  · rintro ⟨before, after, htext, hhead, hlast⟩
    have hlength := congrArg List.length htext
    simp only [List.length_append] at hlength
    obtain rfl := List.length_eq_zero_iff.1 (show before.length = 0 by omega)
    obtain rfl := List.length_eq_zero_iff.1 (show after.length = 0 by omega)
    simp only [List.getLast?_nil, List.head?_nil, Option.any_none] at hhead hlast
    exact ⟨Bool.ne_false_iff.1 hhead.symm, Bool.ne_false_iff.1 hlast⟩
  · rintro ⟨hhead, hlast⟩
    exact ⟨[], [], by simp, by simp [hhead], by simp [hlast]⟩

/-- Where a letter or number character always continues a word, a neighbour is no part of a word
exactly when it is neither. -/
theorem any_isWord_eq_false_iff {c : Option Char}
    (h : ∀ d ∈ c, isAlphanumeric d = true → isWord d = true) :
    c.any isWord = false ↔ ∀ d ∈ c, isWord d = false ∧ isAlphanumeric d = false := by
  cases c with
  | none => simp
  | some d =>
    simp only [Option.any_some, Option.mem_def, Option.some.injEq, forall_eq'] at h ⊢
    refine ⟨fun hword => ⟨hword, ?_⟩, And.left⟩
    by_contra halpha
    rw [h (Bool.ne_false_iff.1 halpha)] at hword
    cases hword

/-- Where the letters and number characters of a text continue words, a phrase stands in the text
between word boundaries when it stands there as whole words. -/
theorem PlainPhrase.standsBounded_iff {phrase text : List Char} (h : PlainPhrase phrase)
    (htext : ∀ c ∈ text, isAlphanumeric c = true → isWord c = true) :
    StandsBounded phrase text ↔ StandsWhole phrase text := by
  refine exists_congr fun before => exists_congr fun after => and_congr_right fun heq => ?_
  subst heq
  simp only [List.mem_append] at htext
  have hends {c : Option Char} (hc : c.any isAlphanumeric = true) (hmem : ∀ d ∈ c, d ∈ phrase) :
      c.any isWord = true := by
    obtain ⟨d, rfl, hd⟩ := (Option.any_eq_true _ _).1 hc
    exact htext d (.inr (.inl (hmem d rfl))) hd
  have hhead := hends h.head fun d => List.mem_of_mem_head?
  have hlast := hends h.last fun d => List.mem_of_mem_getLast?
  rw [hhead, hlast, ne_comm (a := true), ne_eq, ne_eq, Bool.not_eq_true, Bool.not_eq_true,
    any_isWord_eq_false_iff fun d hd => htext d (.inl (List.mem_of_mem_getLast? hd)),
    any_isWord_eq_false_iff fun d hd => htext d (.inr (.inr (List.mem_of_mem_head? hd)))]

/-! ### Sets of one phrase -/

namespace PhraseSet

variable {ν α : Type} [Scalar ν]

omit [Scalar ν] in
theorem phrases_ofRows_singleton (row : String) (payload : α) :
    (ofRows [(row, payload)]).phrases = [Phrase.ofText row payload] :=
  List.mergeSort_singleton _

theorem isSome_takeFirst_singleton (row : String) (payload : α) (text : List Char) :
    ((ofRows [(row, payload)]).takeFirst (ν := ν) text).1.isSome =
      ((Phrase.patternOf (Text.normal row).toList).find? text).isSome := by
  rw [takeFirst, phrases_ofRows_singleton, List.findSome?_singleton, Phrase.cut?]
  change _ = ((Phrase.ofText row payload).pattern.find? text).isSome
  cases (Phrase.ofText row payload).pattern.find? text <;> rfl

/-- The only phrase of a set, where it has no number and ends in letters or number characters, is
found in a text exactly when it stands there between word boundaries. It is found in its own text
when these characters continue words, and it is found exactly as whole words in every text whose
letters and number characters all do. -/
theorem isSome_takeFirst_iff (row : String) (payload : α)
    (h : PlainPhrase (Text.normal row).toList) :
    (∀ text, ((ofRows [(row, payload)]).takeFirst (ν := ν) text).1.isSome ↔
      StandsBounded (Text.normal row).toList text) ∧
    (((ofRows [(row, payload)]).takeFirst (ν := ν) (Text.normal row).toList).1.isSome ↔
      (Text.normal row).toList.head?.any isWord = true ∧
        (Text.normal row).toList.getLast?.any isWord = true) ∧
    ∀ text, (∀ c ∈ text, isAlphanumeric c = true → isWord c = true) →
      (((ofRows [(row, payload)]).takeFirst (ν := ν) text).1.isSome ↔
        StandsWhole (Text.normal row).toList text) := by
  simp only [isSome_takeFirst_singleton, Phrase.isSome_find?_patternOf_iff h]
  exact ⟨fun _ => trivial, standsBounded_self_iff, fun _ => h.standsBounded_iff⟩

/-- A phrase of letters is found as whole words. -/
theorem isSome_takeFirst_iff_life :
    ((ofRows [("life", ())]).takeFirst (ν := Rat) "maximum life".toList).1.isSome := by
  have hplain : PlainPhrase (Text.normal "life").toList := by decide +kernel
  have hall : ("maximum life".toList.all fun c => !isAlphanumeric c || isWord c) = true := by
    decide +kernel
  have hwords : ∀ c ∈ "maximum life".toList, isAlphanumeric c = true → isWord c = true := by
    intro c hc halpha
    simpa [halpha] using List.all_eq_true.1 hall c hc
  have hwhole : StandsWhole (Text.normal "life").toList "maximum life".toList := by
    refine ⟨"maximum ".toList, [], by decide +kernel, ?_, by simp⟩
    intro c hc
    obtain rfl : ' ' = c := Option.some.inj hc
    exact ⟨by decide, by decide⟩
  exact ((isSome_takeFirst_iff "life" () hplain).2.2 _ hwords).2 hwhole

/-- A phrase that ends in a superscript is not found in its own text. -/
theorem takeFirst_squareMetres :
    Text.normal "area in m²" = "area in m²" ∧ PlainPhrase "area in m²".toList ∧
      StandsWhole "area in m²".toList "area in m²".toList ∧
      ((ofRows [("area in m²", ())]).takeFirst (ν := Rat) "area in m²".toList).1.isSome =
        false := by
  refine ⟨by decide +kernel, by decide +kernel, ⟨[], [], by simp, by simp, by simp⟩, ?_⟩
  rw [isSome_takeFirst_singleton]
  decide +kernel

end PhraseSet

end Loadout
