import Mathlib.Algebra.BigOperators.Group.List.Basic
import Mathlib.Algebra.Order.Group.Multiset
import Loadout.Proofs.Document.Lists
import Loadout.Proofs.Line.Numeral
import Loadout.Proofs.Text.Normal

/-!
# Cutting phrases out of a text

Cutting a phrase takes the text of a match away and puts a space in its place. A space is blank,
so what a cut does to the characters that are not blank is to move those of the occurrence out of
the text, and this is kept through any number of cuts, whichever phrases they are of.

The pattern of a phrase consumes the phrase itself, with a numeral in the place of each `#`, and
asks for a word boundary at an end where a letter or a number character stands.

## Main definitions

* `ink`: the characters of a text that are not blank
* `Cut`: an occurrence in a text gives way to a space
* `Phrase.Cuts`, `PhraseSet.Cuts`: phrases cut out of a text, with their occurrences
* `Phrase.Solid`: a phrase whose occurrences are not blank

## Main results

* `PhraseSet.Cuts.ink_eq`: no cut loses a character
* `PhraseSet.cuts_takeFirst`, `PhraseSet.cuts_takeWithin?`: the searches of a set only cut
* `Phrase.leads_patternOf`: what the pattern of a phrase matches
* `Phrase.solid`: an occurrence of a phrase that is not empty is not blank
-/

namespace Loadout

open Pattern Character

/-! ### Ink -/

/-- The characters of a text that are not blank, without their order. -/
def ink (text : List Char) : Multiset Char :=
  (text.filter fun c => !isBlank c : List Char)

theorem card_ink (text : List Char) : (ink text).card = PhraseSet.weight text := by
  rw [ink, Multiset.coe_card, PhraseSet.weight, List.countP_eq_length_filter]

theorem ink_append (left right : List Char) : ink (left ++ right) = ink left + ink right := by
  rw [ink, List.filter_append, ← Multiset.coe_add]
  rfl

theorem ink_space_cons (text : List Char) : ink (' ' :: text) = ink text := rfl

theorem ink_ne_zero_of_mem {text : List Char} {c : Char} (hc : c ∈ text) (h : isBlank c = false) :
    ink text ≠ 0 := by
  have hmem : c ∈ ink text := List.mem_filter.2 ⟨hc, by simp [h]⟩
  exact fun hzero => Multiset.notMem_zero c (hzero ▸ hmem)

/-- An occurrence in a text gives way to a space. -/
def Cut (text occurrence rest : List Char) : Prop :=
  ∃ before after, text = before ++ (occurrence ++ after) ∧ rest = before ++ ' ' :: after

/-- A cut moves the ink of the occurrence out of the text. -/
theorem Cut.ink_eq {text occurrence rest : List Char} (h : Cut text occurrence rest) :
    ink text = ink occurrence + ink rest := by
  obtain ⟨before, after, rfl, rfl⟩ := h
  calc
    ink (before ++ (occurrence ++ after)) =
        ink before + (ink occurrence + ink after) := by
      rw [ink_append, ink_append]
    _ = ink occurrence + (ink before + ink (' ' :: after)) := by
      rw [ink_space_cons, add_left_comm]
    _ = ink occurrence + ink (before ++ ' ' :: after) := by
      rw [ink_append]

/-! ### Cuts of phrases -/

section Cuts

variable {ν α : Type} [Scalar ν]

/-- A phrase is found in a text and cut out: what it stands for, its occurrence and the text with a
space in the place of that. -/
def Phrase.Cuts (p : Phrase α) (text : List Char) (found : Found ν α)
    (occurrence rest : List Char) : Prop :=
  ∃ m, p.pattern.find? text = some m ∧ found = ⟨p.payload, (m.group? 1).bind readNumber?⟩ ∧
    occurrence = m.text ∧ rest = m.replace [' ']

theorem Phrase.cut?_eq_some_iff {p : Phrase α} {text : List Char} {found : Found ν α}
    {rest : List Char} :
    p.cut? text = some (found, rest) ↔ ∃ occurrence, p.Cuts text found occurrence rest := by
  rw [cut?, Option.map_eq_some_iff]
  constructor
  · rintro ⟨m, hm, heq⟩
    obtain ⟨rfl, rfl⟩ := Prod.mk.inj heq
    exact ⟨m.text, m, hm, rfl, rfl, rfl⟩
  · rintro ⟨_, m, hm, rfl, rfl, rfl⟩
    exact ⟨m, hm, rfl⟩

theorem Phrase.Cuts.cut {p : Phrase α} {text occurrence rest : List Char} {found : Found ν α}
    (h : p.Cuts text found occurrence rest) : Cut text occurrence rest := by
  obtain ⟨m, hm, -, rfl, rfl⟩ := h
  exact ⟨m.before.reverse, m.after, eq_of_find? hm, by simp [Match.replace]⟩

/-- Phrases of a set cut out of a text one after the other, each with what was found and its
occurrence. -/
inductive PhraseSet.Cuts (s : PhraseSet α) :
    List Char → List (Found ν α × List Char) → List Char → Prop
  | stop (text : List Char) : Cuts s text [] text
  | next {p : Phrase α} (hp : p ∈ s.phrases) {text occurrence mid rest : List Char}
      {found : Found ν α} {more : List (Found ν α × List Char)}
      (hcut : p.Cuts text found occurrence mid) (hmore : Cuts s mid more rest) :
      Cuts s text ((found, occurrence) :: more) rest

namespace PhraseSet

variable {s : PhraseSet α} {text mid rest : List Char} {cuts more : List (Found ν α × List Char)}

theorem Cuts.append (h : s.Cuts text cuts mid) (hmore : s.Cuts mid more rest) :
    s.Cuts text (cuts ++ more) rest := by
  induction h with
  | stop => exact hmore
  | next hp hcut _ ih => exact .next hp hcut (ih hmore)

/-- No cut loses a character: what is not blank in a text is in an occurrence that was cut out or
in what remains. -/
theorem Cuts.ink_eq (h : s.Cuts text cuts rest) :
    ink text = (cuts.map fun cut => ink cut.2).sum + ink rest := by
  induction h with
  | stop => simp
  | next hp hcut _ ih => rw [hcut.cut.ink_eq, ih, List.map_cons, List.sum_cons, add_assoc]

/-- The search for the first phrase makes one cut, or none. -/
theorem cuts_takeFirst (s : PhraseSet α) (text : List Char) :
    ∃ cuts : List (Found ν α × List Char), s.Cuts text cuts (s.takeFirst (ν := ν) text).2 ∧
      cuts.map Prod.fst = (s.takeFirst text).1.toList := by
  rw [takeFirst]
  cases hfound : s.phrases.findSome? fun p => p.cut? (ν := ν) text with
  | none => exact ⟨[], .stop text, rfl⟩
  | some cut =>
    obtain ⟨found, rest⟩ := cut
    obtain ⟨p, hp, hcut⟩ := List.exists_of_findSome?_eq_some hfound
    obtain ⟨occurrence, hcut⟩ := Phrase.cut?_eq_some_iff.1 hcut
    exact ⟨[(found, occurrence)], .next hp hcut (.stop rest), rfl⟩

theorem cuts_cutWithin? {p : Phrase α} (hp : p ∈ s.phrases) {rounds : Nat}
    {before found : List (Found ν α)} (h : p.cutWithin? rounds before text = some (found, rest)) :
    ∃ cuts : List (Found ν α × List Char), s.Cuts text cuts rest ∧
      found = before ++ cuts.map Prod.fst := by
  induction rounds generalizing before text with
  | zero => cases h
  | succ rounds ih =>
    rw [Phrase.cutWithin?] at h
    cases hfound : p.cut? (ν := ν) text with
    | none =>
      rw [hfound] at h
      cases h
      exact ⟨[], .stop _, by simp⟩
    | some cut =>
      obtain ⟨next, mid⟩ := cut
      obtain ⟨occurrence, hcut⟩ := Phrase.cut?_eq_some_iff.1 hfound
      rw [hfound] at h
      obtain ⟨cuts, hcuts, rfl⟩ := ih h
      exact ⟨(next, occurrence) :: cuts, .next hp hcut hcuts, by simp⟩

/-- The search for all phrases only cuts. -/
theorem cuts_takeWithin? {rounds : Nat} {found : List (Found ν α)}
    (h : s.takeWithin? rounds text = some (found, rest)) :
    ∃ cuts : List (Found ν α × List Char), s.Cuts text cuts rest ∧ found = cuts.map Prod.fst := by
  refine of_foldlM_eq_some (I := fun state : List (Found ν α) × List Char =>
    ∃ cuts : List (Found ν α × List Char), s.Cuts text cuts state.2 ∧
      state.1 = cuts.map Prod.fst) ?_ ⟨[], .stop text, rfl⟩ h
  rintro ⟨found, mid⟩ ⟨cuts, hcuts, rfl⟩ p hp ⟨found', rest'⟩ hround
  obtain ⟨more, hmore, rfl⟩ := cuts_cutWithin? hp hround
  exact ⟨cuts ++ more, hcuts.append hmore, by simp⟩

theorem cuts_takeAll? {found : List (Found ν α)} (h : s.takeAll? text = some (found, rest)) :
    ∃ cuts : List (Found ν α × List Char), s.Cuts text cuts rest ∧ found = cuts.map Prod.fst :=
  cuts_takeWithin? h

end PhraseSet

end Cuts

/-! ### The pattern of a phrase -/

namespace Phrase

/-- The edge of a phrase is a word boundary when a letter or a number character stands there. -/
theorem leads_edge {c : Option Char} {p q : Place} :
    (edge c).Leads p q ↔
      (c.any isAlphanumeric = true → Anchor.boundary.holds p = true) ∧ q = p := by
  rw [edge]
  split
  case isTrue hc => simp [Leads, hc]
  case isFalse hc => simp [Leads, hc]

/-- The pattern of a phrase matches the phrase with numerals in the place of `#`, from a word
boundary on where the phrase begins with a letter or a number character, and up to one where it
ends in such a character. -/
theorem leads_patternOf {text : List Char} {p q : Place} :
    (patternOf text).Leads p q ↔
      (text.head?.any isAlphanumeric = true → Anchor.boundary.holds p = true) ∧
      (text.getLast?.any isAlphanumeric = true → Anchor.boundary.holds q = true) ∧
      ∃ cs ns rest, p.rest = cs ++ rest ∧ Woven (Text.pieces (· == '#') text) ns cs ∧
        (∀ n ∈ ns, Numeral ['+', '-'] n) ∧
        q = ⟨cs.reverse ++ p.before, rest, numberCaptures 1 ns ++ p.captures⟩ := by
  have hspans := spans_withNumerals 1 (Text.pieces_ne_nil (· == '#') text)
  have hopen : (patternOf text).Leads p q ↔ ∃ m, (edge text.head?).Leads p m ∧
      ∃ m', (withNumerals 1 (Text.pieces (· == '#') text)).Leads m m' ∧
        ∃ m'', (edge text.getLast?).Leads m' m'' ∧ q = m'' := Iff.rfl
  rw [hopen]
  simp only [leads_edge, hspans _ _]
  constructor
  · rintro ⟨_, ⟨hhead, rfl⟩, _, ⟨cs, _, rest, hrest, ⟨ns, hwoven, hns, rfl⟩, rfl⟩, _, ⟨hlast, rfl⟩,
      rfl⟩
    exact ⟨hhead, hlast, cs, ns, rest, hrest, hwoven, hns, rfl⟩
  · rintro ⟨hhead, hlast, cs, ns, rest, hrest, hwoven, hns, rfl⟩
    exact ⟨p, ⟨hhead, rfl⟩, _, ⟨cs, _, rest, hrest, ⟨ns, hwoven, hns, rfl⟩, rfl⟩, _, ⟨hlast, rfl⟩,
      rfl⟩

end Phrase

/-! ### Occurrences are not blank -/

private theorem decimalDigits_apart :
    ∀ run ∈ decimalDigits, ∀ gap ∈ blanks, run.2 < gap.1 ∨ gap.2 < run.1 := by
  decide +kernel

theorem isBlank_of_isDecimalDigit {c : Char} (h : isDecimalDigit c = true) :
    isBlank c = false := by
  rw [Bool.eq_false_iff]
  intro hblank
  obtain ⟨gap, hgap, hlow, hhigh⟩ := Ranges.contains_iff.1 hblank
  rw [isDecimalDigit] at h
  split at h
  case isTrue =>
    have hascii : ∀ gap ∈ blanks, gap.2 < 48 ∨ 57 < gap.1 := by decide
    simp only [isAsciiDigit, Bool.and_eq_true, decide_eq_true_eq] at h
    rcases hascii gap hgap with hgap | hgap <;> omega
  case isFalse =>
    obtain ⟨run, hrun, hlow', hhigh'⟩ := Ranges.contains_iff.1 h
    rcases decimalDigits_apart run hrun gap hgap with hapart | hapart <;> omega

theorem Numeral.exists_not_blank {signs n : List Char} (h : Numeral signs n) :
    ∃ c ∈ n, isBlank c = false := by
  have hdigits {cs : List Char} (h : Digits cs) : ∃ c ∈ cs, isBlank c = false := by
    obtain ⟨c, hc⟩ := List.exists_mem_of_ne_nil cs h.1
    exact ⟨c, hc, isBlank_of_isDecimalDigit (h.2 c hc)⟩
  have hmagnitude {cs : List Char} (h : Magnitude cs) : ∃ c ∈ cs, isBlank c = false := by
    cases h with
    | whole h => exact hdigits h
    | fraction h _ =>
      obtain ⟨c, hc, hblank⟩ := hdigits h
      exact ⟨c, List.mem_append_left _ hc, hblank⟩
  cases h with
  | unsigned h => exact hmagnitude h
  | signed _ h =>
    obtain ⟨c, hc, hblank⟩ := hmagnitude h
    exact ⟨c, List.mem_cons_of_mem _ hc, hblank⟩

/-- A text that is spelled like a phrase whose first character is not blank is not blank. -/
theorem ink_ne_zero_of_woven {phrase text : List Char} {ns : List (List Char)}
    (hphrase : ∃ c ∈ phrase.head?, isBlank c = false)
    (hwoven : Woven (Text.pieces (· == '#') phrase) ns text)
    (hns : ∀ n ∈ ns, Numeral ['+', '-'] n) : ink text ≠ 0 := by
  obtain ⟨c, hc, hblank⟩ := hphrase
  obtain ⟨phrase, rfl⟩ := List.head?_eq_some_iff.1 hc
  obtain ⟨piece, pieces, hpieces⟩ :=
    List.exists_cons_of_ne_nil (Text.pieces_ne_nil (· == '#') phrase)
  by_cases hnumber : c = '#'
  · -- The phrase begins with a numeral.
    rw [Text.pieces, hnumber, if_pos (by rfl), hpieces, woven_cons_cons] at hwoven
    obtain ⟨n, more, rest, rfl, rfl, -⟩ := hwoven
    obtain ⟨d, hd, hdigit⟩ := (hns n List.mem_cons_self).exists_not_blank
    exact ink_ne_zero_of_mem (by simp [hd]) hdigit
  · rw [Text.pieces, if_neg (by simpa using hnumber), hpieces] at hwoven
    have hmem : c ∈ text := by
      cases hwoven <;> simp
    exact ink_ne_zero_of_mem hmem hblank

theorem Phrase.woven_of_find? {phrase text : List Char} {m : Match}
    (h : (patternOf phrase).find? text = some m) :
    ∃ ns, Woven (Text.pieces (· == '#') phrase) ns m.text ∧ ∀ n ∈ ns, Numeral ['+', '-'] n := by
  obtain ⟨skipped, more, rfl, ⟨q, hq, rfl⟩, -⟩ := foundAt_of_findAfter? h
  obtain ⟨-, -, cs, ns, rest, hrest, hwoven, hns, rfl⟩ := leads_patternOf.1 hq
  exact ⟨ns, by rwa [since_eq hrest], hns⟩

theorem exists_head?_normal {text : String} (h : Text.normal text ≠ "") :
    ∃ c ∈ (Text.normal text).toList.head?, isBlank c = false := by
  have hspaced := Text.spaced_normalChars text.toList
  rw [Text.normal, String.toList_ofList]
  rw [Text.normal, ne_eq, String.ofList_eq_empty_iff] at h
  obtain ⟨c, cs, hcs⟩ := List.exists_cons_of_ne_nil h
  exact ⟨c, by rw [hcs]; rfl, hspaced.head c (by rw [hcs]; rfl)⟩

/-- The occurrences of a phrase are not blank. -/
def Phrase.Solid {α : Type} (p : Phrase α) : Prop :=
  ∀ text m, p.pattern.find? text = some m → ink m.text ≠ 0

/-- The occurrences of a phrase that is not empty are not blank. -/
theorem Phrase.solid {α : Type} {p : Phrase α} (hp : p.text ≠ "") : p.Solid := by
  intro text m hm
  obtain ⟨source, hsource⟩ := p.exists_normal
  rw [p.pattern_eq] at hm
  obtain ⟨ns, hwoven, hns⟩ := woven_of_find? hm
  rw [hsource] at hp hwoven
  exact ink_ne_zero_of_woven (exists_head?_normal hp) hwoven hns

theorem PhraseSet.text_of_mem_ofRows {α : Type} {rows : List (String × α)} {p : Phrase α}
    (hp : p ∈ (ofRows rows).phrases) : ∃ row ∈ rows, p.text = Text.normal row.1 := by
  obtain ⟨row, hrow, rfl⟩ := List.mem_map.1 (List.mem_mergeSort.1 hp)
  exact ⟨row, hrow, rfl⟩

theorem PhraseSet.exists_empty_ofRows_iff {α : Type} {rows : List (String × α)} :
    (∃ p ∈ (ofRows rows).phrases, p.text = "") ↔ ∃ row ∈ rows, Text.normal row.1 = "" := by
  constructor
  · rintro ⟨p, hp, hempty⟩
    obtain ⟨row, hrow, htext⟩ := text_of_mem_ofRows hp
    exact ⟨row, hrow, htext.symm.trans hempty⟩
  · rintro ⟨row, hrow, hempty⟩
    exact ⟨_, List.mem_mergeSort.2 (List.mem_map_of_mem hrow), hempty⟩

end Loadout
