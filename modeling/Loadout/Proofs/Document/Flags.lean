import Mathlib.Data.List.TakeWhile
import Mathlib.Data.Option.Basic
import Loadout.FlagSet
import Loadout.Proofs.Number.Digits
import Loadout.Proofs.Text.Pieces

/-!
# Flag sets are read back from their written form

A written flag set is a row of parts with bars between them: the names of its named flags
and, if it has others, one hexadecimal number. Cutting at the bars and trimming gives the
parts back, since no part is empty or holds a bar or a blank; each part is read as the flags
it was written for; and the named and the unnamed flags together are the set.

Of the vocabulary only the spelling of its names matters. Two names may share a position,
and a name whose position is outside the word is never written.

## Main definitions

* `Vocabulary.Legible`: names that are told apart from one another and from a number

## Main results

* `Text.map_trim_pieces_intercalate`: the parts of a row are found again
* `FlagSet.named_union_unnamed`: a set is its named and its unnamed flags
* `FlagSet.ofText?_text`: a set is read back from its written form
-/

namespace Loadout

/-! ### Parts between bars -/

namespace Text

open Character

/-- Whether a part is one that neither cutting nor trimming changes or drops. -/
def isPlain (part : List Char) : Bool :=
  !part.isEmpty && part.all fun c => !isBlank c && c != '|'

theorem isPlain_iff {part : List Char} :
    isPlain part = true ↔ part ≠ [] ∧ ∀ c ∈ part, isBlank c = false ∧ c ≠ '|' := by
  simp [isPlain]

private theorem dropWhile_isBlank {cs : List Char} (h : ∀ c ∈ cs, isBlank c = false) :
    cs.dropWhile isBlank = cs := by
  cases cs with
  | nil => rfl
  | cons c cs => rw [List.dropWhile_cons_of_neg (by simp [h c (by simp)])]

theorem trim_eq_self {cs : List Char} (h : ∀ c ∈ cs, isBlank c = false) : trim cs = cs := by
  rw [trim, dropWhile_isBlank h, trimEnd,
    dropWhile_isBlank fun c hc => h c (List.mem_reverse.1 hc), List.reverse_reverse]

theorem trim_cons {c : Char} (hc : isBlank c = true) (cs : List Char) :
    trim (c :: cs) = trim cs := by
  rw [trim, List.dropWhile_cons_of_pos hc, trim]

theorem trimEnd_append_singleton {c : Char} (hc : isBlank c = true) (cs : List Char) :
    trimEnd (cs ++ [c]) = trimEnd cs := by
  rw [trimEnd, List.reverse_append, List.reverse_singleton, List.singleton_append,
    List.dropWhile_cons_of_pos hc, trimEnd]

theorem trim_append_singleton {c : Char} (hc : isBlank c = true) (cs : List Char) :
    trim (cs ++ [c]) = trim cs := by
  rw [trim, trim, List.dropWhile_append]
  split
  case isTrue h =>
    rw [List.isEmpty_iff.1 h]
    simp [hc]
  case isFalse => exact trimEnd_append_singleton hc _

theorem trim_ne_nil {c : Char} (hc : isBlank c = false) (cs : List Char) :
    trim (c :: cs) ≠ [] := by
  rw [trim, List.dropWhile_cons_of_neg (by simp [hc]), trimEnd, ne_eq, List.reverse_eq_nil_iff,
    List.dropWhile_eq_nil_iff]
  intro hall
  rw [hall c (by simp)] at hc
  cases hc

theorem map_trim_pieces_cons {sep : Char → Bool} {c : Char} (hsep : sep c = false)
    (hc : isBlank c = true) (cs : List Char) :
    (pieces sep (c :: cs)).map trim = (pieces sep cs).map trim := by
  cases hp : pieces sep cs with
  | nil => exact absurd hp (pieces_ne_nil sep cs)
  | cons piece more => simp [pieces, hsep, hp, trim_cons hc]

/-- Parts that are set apart by bars with a space on either side are found again. -/
theorem map_trim_pieces_intercalate {parts : List (List Char)} (hne : parts ≠ [])
    (hparts : ∀ part ∈ parts, isPlain part = true) :
    (pieces (· == '|') ([' ', '|', ' '].intercalate parts)).map trim = parts := by
  induction parts with
  | nil => exact absurd rfl hne
  | cons part parts ih =>
    rw [List.forall_mem_cons] at hparts
    obtain ⟨-, hpart⟩ := isPlain_iff.1 hparts.1
    have hbar : ∀ c ∈ part, (c == '|') = false := fun c hc => by simp [(hpart c hc).2]
    have htrim : trim part = part := trim_eq_self fun c hc => (hpart c hc).1
    cases parts with
    | nil => simp [pieces_eq_singleton hbar, htrim]
    | cons next parts =>
      have hfirst : pieces (· == '|') (part ++ [' ']) = [part ++ [' ']] :=
        pieces_eq_singleton fun c hc => by
          rcases List.mem_append.1 hc with hc | hc
          · exact hbar c hc
          · rw [List.mem_singleton.1 hc]
            rfl
      have hsplit : [' ', '|', ' '].intercalate (part :: next :: parts) =
          (part ++ [' ']) ++ '|' :: (' ' :: [' ', '|', ' '].intercalate (next :: parts)) := by
        simp
      rw [hsplit, pieces_append_cons (by rfl), hfirst, List.map_append,
        map_trim_pieces_cons rfl (by decide), ih (by simp) hparts.2, List.map_singleton,
        trim_append_singleton (by decide), htrim, List.singleton_append]

end Text

/-! ### Flags of a set -/

/-- A vocabulary whose names are told apart from one another and from a number. -/
structure Vocabulary.Legible (names : Vocabulary) : Prop where
  nodup : (names.map (·.1)).Nodup
  plain : ∀ entry ∈ names, Text.isPlain entry.1.toList = true
  worded : ∀ entry ∈ names, (entry.1.toList.head? != some '0') = true

theorem damageFlagNames_legible : damageFlagNames.Legible :=
  ⟨by decide, List.all_eq_true.1 (by decide), List.all_eq_true.1 (by decide)⟩

theorem keywordFlagNames_legible : keywordFlagNames.Legible :=
  ⟨by decide, List.all_eq_true.1 (by decide), List.all_eq_true.1 (by decide)⟩

namespace FlagSet

variable {names : Vocabulary}

theorem ext_has {a b : FlagSet names} (h : ∀ i < 64, a.has i = b.has i) : a = b := by
  obtain ⟨a⟩ := a
  obtain ⟨b⟩ := b
  exact congrArg mk (BitVec.eq_of_getLsbD_eq h)

theorem getLsbD_twoPow {i : Nat} (hi : i < 64) (position : Nat) :
    (BitVec.twoPow 64 position).getLsbD i = (position == i) := by
  by_cases h : position = i
  · subst h
    simp [hi]
  · simp [BitVec.getLsbD_twoPow, h]

theorem union_empty (a : FlagSet names) : a ∪ empty = a :=
  congrArg mk BitVec.or_zero

/-- A set with the flags of some entries of a vocabulary. -/
def withEntries (a : FlagSet names) (entries : Vocabulary) : FlagSet names :=
  entries.foldl (fun set entry => set ∪ single entry.2) a

theorem has_withEntries (entries : Vocabulary) (a : FlagSet names) {i : Nat} (hi : i < 64) :
    (a.withEntries entries).has i = (a.has i || entries.any (·.2 == i)) := by
  induction entries generalizing a with
  | nil => simp [withEntries]
  | cons entry entries ih =>
    have hunion : (a ∪ single entry.2).has i = (a.has i || (entry.2 == i)) := by
      rw [← getLsbD_twoPow hi]
      exact BitVec.getLsbD_or
    calc (a.withEntries (entry :: entries)).has i
      _ = ((a ∪ single entry.2).withEntries entries).has i := rfl
      _ = (a.has i || (entry :: entries).any (·.2 == i)) := by
        rw [ih, hunion, List.any_cons, Bool.or_assoc]

/-- Clearing the named flags leaves those at other positions. -/
theorem getLsbD_foldl_clear (entries : Vocabulary) (bits : BitVec 64) {i : Nat} (hi : i < 64) :
    (entries.foldl (fun rest entry => rest &&& ~~~ BitVec.twoPow 64 entry.2) bits).getLsbD i =
      (bits.getLsbD i && !entries.any (·.2 == i)) := by
  induction entries generalizing bits with
  | nil => simp
  | cons entry entries ih =>
    rw [List.foldl_cons, ih, BitVec.getLsbD_and, BitVec.getLsbD_not, getLsbD_twoPow hi,
      List.any_cons, Bool.not_or, Bool.and_assoc, decide_eq_true hi, Bool.true_and]

/-- The flags of the set that have a name. -/
def named (a : FlagSet names) : Vocabulary :=
  names.filter fun entry => a.has entry.2

/-- A set is its named and its unnamed flags. -/
theorem named_union_unnamed (a : FlagSet names) :
    empty.withEntries a.named ∪ a.unnamed = a := by
  -- A position has a flag of the set with a name there, or without one, or not at all.
  apply ext_has
  intro i hi
  have hunion (b c : FlagSet names) : (b ∪ c).has i = (b.has i || c.has i) :=
    BitVec.getLsbD_or
  have hunnamed : a.unnamed.has i = (a.has i && !names.any (·.2 == i)) :=
    getLsbD_foldl_clear names a.bits hi
  have hnamed : a.named.any (·.2 == i) = (a.has i && names.any (·.2 == i)) := by
    have hat (entry : String × Nat) :
        (a.has entry.2 && entry.2 == i) = (a.has i && entry.2 == i) := by
      by_cases h : entry.2 = i
      · rw [h]
      · rw [beq_eq_false_iff_ne.2 h, Bool.and_false, Bool.and_false]
    rw [named, List.any_filter, funext hat]
    generalize a.has i = on
    cases on with
    | false => simp
    | true => simp only [Bool.true_and]
  have hempty : (empty : FlagSet names).has i = false := by
    simp [has, empty]
  rw [hunion, has_withEntries _ _ hi, hempty, hnamed, hunnamed]
  cases a.has i <;> simp

/-! ### The written form -/

theorem plain_digitChar {d : Nat} (hd : d < 16) :
    Nat.digitChar d ≠ '+' ∧ Character.isBlank (Nat.digitChar d) = false ∧
      Nat.digitChar d ≠ '|' := by
  revert d
  decide

theorem ofPart?_hexadecimal (a : FlagSet names) :
    ofPart? ('0' :: 'x' :: Nat.toDigits 16 a.bits.toNat) = some a := by
  have hsign : ∀ rest, Nat.toDigits 16 a.bits.toNat ≠ '+' :: rest := by
    intro rest h
    have hmem : '+' ∈ Nat.toDigits 16 a.bits.toNat := by simp [h]
    obtain ⟨d, hd, hc⟩ := exists_of_mem_toDigits (by decide) hmem
    exact (plain_digitChar hd).1 hc.symm
  have hword : hexWord? (Nat.toDigits 16 a.bits.toNat) = some a.bits := by
    have hlt : a.bits.toNat < Nat.pow 2 64 := a.bits.isLt
    unfold hexWord?
    split
    case h_1 rest h => exact absurd h (hsign rest)
    case h_2 =>
      simp only [Hexadecimal.read?_toDigits]
      change (guard (a.bits.toNat < Nat.pow 2 64) : Option Unit).bind _ = _
      rw [guard, if_pos hlt, BitVec.ofNat_toNat]
      rfl
  rw [ofPart?, hword]
  rfl

private theorem lookup_eq_some {entries : Vocabulary} (hnodup : (entries.map (·.1)).Nodup)
    {entry : String × Nat} (hentry : entry ∈ entries) :
    entries.lookup entry.1 = some entry.2 := by
  obtain ⟨before, after, rfl⟩ := List.append_of_mem hentry
  refine List.lookup_eq_some_iff.2 ⟨before, after, rfl, fun p hp => ?_⟩
  rw [List.map_append, List.nodup_append] at hnodup
  have hne := hnodup.2.2 p.1 (List.mem_map_of_mem hp) entry.1 (by simp)
  simpa using hne.symm

theorem ofPart?_name (hnames : names.Legible) {entry : String × Nat} (hentry : entry ∈ names) :
    ofPart? entry.1.toList = some (single entry.2 : FlagSet names) := by
  have hname : named? entry.1 = some (single entry.2 : FlagSet names) := by
    rw [named?, lookup_eq_some hnames.nodup hentry]
    rfl
  unfold ofPart?
  split
  case h_1 h => exact absurd h (Text.isPlain_iff.1 (hnames.plain entry hentry)).1
  case h_2 h =>
    have hworded := hnames.worded entry hentry
    rw [h] at hworded
    cases hworded
  case h_3 => rw [String.ofList_toList, hname]

/-- The parts of the written form. -/
def parts (a : FlagSet names) : List (List Char) :=
  a.named.map (·.1.toList) ++
    if a.unnamed.bits.toNat = 0 then [] else ['0' :: 'x' :: Nat.toDigits 16 a.unnamed.bits.toNat]

theorem toList_text (a : FlagSet names) :
    a.text.toList = [' ', '|', ' '].intercalate a.parts := by
  unfold text parts named
  rw [String.toList_intercalate, List.map_append, List.map_map]
  split <;> simp [Function.comp_def]

theorem plain_of_mem_parts (hnames : names.Legible) (a : FlagSet names) {part : List Char}
    (hpart : part ∈ a.parts) : Text.isPlain part = true := by
  rw [parts, List.mem_append] at hpart
  rcases hpart with hpart | hpart
  · obtain ⟨entry, hentry, rfl⟩ := List.mem_map.1 hpart
    exact hnames.plain entry (List.mem_filter.1 hentry).1
  · split at hpart
    case isTrue => cases hpart
    case isFalse =>
      rw [List.mem_singleton.1 hpart]
      refine Text.isPlain_iff.2 ⟨List.cons_ne_nil _ _, fun c hc => ?_⟩
      rcases List.mem_cons.1 hc with rfl | hc
      · decide
      · rcases List.mem_cons.1 hc with rfl | hc
        · decide
        · obtain ⟨d, hd, rfl⟩ := exists_of_mem_toDigits (by decide) hc
          exact (plain_digitChar hd).2

/-- A set with the flags of a part of a written form. -/
def addPart? (set : FlagSet names) (part : List Char) : Option (FlagSet names) :=
  (ofPart? part).map (set ∪ ·)

theorem foldlM_addPart?_named (hnames : names.Legible) {entries : Vocabulary}
    (hentries : ∀ entry ∈ entries, entry ∈ names) (a : FlagSet names) :
    (entries.map (·.1.toList)).foldlM addPart? a = some (a.withEntries entries) := by
  induction entries generalizing a with
  | nil => rfl
  | cons entry entries ih =>
    rw [List.forall_mem_cons] at hentries
    rw [List.map_cons, List.foldlM_cons, addPart?, ofPart?_name hnames hentries.1]
    exact ih hentries.2 _

/-- The parts of the written form of a set make up the set. -/
theorem foldlM_addPart?_parts (hnames : names.Legible) (a : FlagSet names) :
    a.parts.foldlM addPart? empty = some a := by
  have hentries : ∀ entry ∈ a.named, entry ∈ names :=
    fun _ hentry => (List.mem_filter.1 hentry).1
  have hnamed := foldlM_addPart?_named hnames hentries empty
  rw [parts, List.foldlM_append, hnamed]
  split
  case isTrue h =>
    have hunnamed : a.unnamed = empty := congrArg mk (BitVec.eq_of_toNat_eq h)
    have hunion := a.named_union_unnamed
    rw [hunnamed, union_empty] at hunion
    rw [hunion]
    rfl
  case isFalse => simp [addPart?, ofPart?_hexadecimal, named_union_unnamed]

/-- A flag set is read back from its written form, its unnamed flags included. -/
theorem ofText?_text (hnames : names.Legible) (a : FlagSet names) : ofText? a.text = some a := by
  have hfold := foldlM_addPart?_parts hnames a
  rw [ofText?, a.toList_text]
  cases hparts : a.parts with
  | nil =>
    rw [hparts] at hfold
    exact hfold
  | cons part parts =>
    have hplain : ∀ p ∈ part :: parts, Text.isPlain p = true :=
      fun p hp => a.plain_of_mem_parts hnames (hparts ▸ hp)
    have htrim : Text.trim ([' ', '|', ' '].intercalate (part :: parts)) ≠ [] := by
      obtain ⟨hne, hblank⟩ := Text.isPlain_iff.1 (hplain part List.mem_cons_self)
      obtain ⟨c, tail, rfl⟩ := List.exists_cons_of_ne_nil hne
      rw [List.intercalate_cons_cons_left]
      exact Text.trim_ne_nil (hblank c List.mem_cons_self).1 _
    have hmap (pieces : List (List Char)) :
        pieces.foldlM (fun set part => (ofPart? (Text.trim part)).map (set ∪ ·)) empty =
          (pieces.map Text.trim).foldlM addPart? (empty : FlagSet names) := by
      rw [List.foldlM_map]
      rfl
    rw [if_neg htrim, hmap, Text.map_trim_pieces_intercalate (by simp) hplain, ← hparts, hfold]

end FlagSet

end Loadout
