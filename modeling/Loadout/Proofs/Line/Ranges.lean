import Loadout.Line.Known
import Loadout.Proofs.Line.Numeral

/-!
# Ranges in known lines

A known line is cut at its ranges. Ranges begin and end with parentheses and have none in
between, so two of them never overlap, and the text is cut in one way only: ranges with pieces
between them that have no range of their own.

## Main definitions

* `rangeText`, `IsRange`, `HasRange`: how ranges are written
* `Template`: a text cut at all its ranges

## Main results

* `spans_rangePattern`: what the pattern of a range consumes and captures
* `splitRanges_eq_iff`: the cut of a text is its template
-/

namespace Loadout

open Pattern

/-- A range as written. -/
def rangeText (bounds : List Char × List Char) : List Char :=
  '(' :: (bounds.1 ++ '-' :: bounds.2) ++ [')']

/-- Both bounds are numerals, with or without a minus. -/
def IsRange (bounds : List Char × List Char) : Prop :=
  Numeral ['-'] bounds.1 ∧ Numeral ['-'] bounds.2

/-- A text with a range somewhere in it. -/
def HasRange (text : List Char) : Prop :=
  ∃ before bounds after, IsRange bounds ∧ text = before ++ (rangeText bounds ++ after)

/-! ### The pattern of a range -/

/-- The pattern of a range consumes exactly the ranges and captures their bounds. -/
theorem spans_rangePattern : rangePattern.Spans fun cs captures =>
    ∃ bounds, IsRange bounds ∧ cs = rangeText bounds ∧
      captures = [(2, bounds.2), (1, bounds.1)] := by
  have hbound : (signedPattern (.one '-')).Spans (.plain (Numeral ['-'])) :=
    spans_signedPattern fun c => by simp [CharSet.contains]
  have hpattern := (spans_char (.one '(')).seq ((hbound.group 1).seq
    ((spans_char (.one '-')).seq ((hbound.group 2).seq
      ((spans_char (.one ')')).seq spans_empty))))
  refine (show rangePattern.Spans _ from hpattern).congr fun cs captures => ?_
  constructor
  · rintro ⟨_, _, _, _, ⟨⟨_, hopen, rfl⟩, rfl⟩, ⟨a, _, _, _, ⟨_, ⟨ha, rfl⟩, rfl⟩,
      ⟨_, _, _, _, ⟨⟨_, hminus, rfl⟩, rfl⟩, ⟨b, _, _, _, ⟨_, ⟨hb, rfl⟩, rfl⟩,
        ⟨_, _, _, _, ⟨⟨_, hclose, rfl⟩, rfl⟩, ⟨rfl, rfl⟩, rfl, rfl⟩, rfl, rfl⟩, rfl, rfl⟩,
        rfl, rfl⟩, rfl, rfl⟩
    rw [beq_iff_eq.1 hopen, beq_iff_eq.1 hminus, beq_iff_eq.1 hclose]
    exact ⟨(a, b), ⟨ha, hb⟩, by simp [rangeText], rfl⟩
  · rintro ⟨⟨a, b⟩, ⟨ha, hb⟩, rfl, rfl⟩
    refine ⟨['('], [], a ++ '-' :: (b ++ [')']), [(2, b), (1, a)], ⟨⟨'(', rfl, rfl⟩, rfl⟩,
      ⟨a, [(1, a)], '-' :: (b ++ [')']), [(2, b)], ⟨[], ⟨ha, rfl⟩, rfl⟩,
        ⟨['-'], [], b ++ [')'], [(2, b)], ⟨⟨'-', rfl, rfl⟩, rfl⟩,
          ⟨b, [(2, b)], [')'], [], ⟨[], ⟨hb, rfl⟩, rfl⟩,
            ⟨[')'], [], [], [], ⟨⟨')', rfl, rfl⟩, rfl⟩, ⟨rfl, rfl⟩, rfl, rfl⟩, rfl, rfl⟩,
          rfl, rfl⟩, rfl, rfl⟩, by simp [rangeText], rfl⟩

theorem eq_of_find?_rangePattern {text : List Char} {m : Match}
    (h : rangePattern.find? text = some m) :
    ∃ bounds, IsRange bounds ∧ text = m.before.reverse ++ (rangeText bounds ++ m.after) ∧
      ((m.group? 1).getD [], (m.group? 2).getD []) = bounds ∧ ¬ HasRange m.before.reverse := by
  obtain ⟨skipped, more, rfl, ⟨q, hq, rfl⟩, hfirst⟩ := foundAt_of_findAfter? h
  obtain ⟨_, _, rest, rfl, ⟨bounds, hbounds, rfl, rfl⟩, rfl⟩ := (spans_rangePattern _ _).1 hq
  refine ⟨bounds, hbounds, by simp, by simp [Match.group?, List.lookup_cons], ?_⟩
  rintro ⟨before, bounds', after, hbounds', hskipped⟩
  rw [List.append_nil, List.reverse_reverse] at hskipped
  subst hskipped
  refine hfirst before _ _ (by rw [List.append_assoc]) (by simp [rangeText])
    ((spans_rangePattern _ _).2
      ⟨rangeText bounds', _, _, by rw [List.append_assoc], ⟨bounds', hbounds', rfl, rfl⟩, rfl⟩)

theorem not_hasRange_of_find?_rangePattern {text : List Char} (h : rangePattern.find? text = none) :
    ¬ HasRange text := by
  rintro ⟨before, bounds, after, hbounds, htext⟩
  exact findAfter?_eq_none_iff.1 h before _ _ htext ((spans_rangePattern _ _).2
    ⟨rangeText bounds, _, after, rfl, ⟨bounds, hbounds, rfl, rfl⟩, rfl⟩)

/-! ### Ranges do not overlap -/

theorem append_cons_inj_of_notMem {x : Char} {a b rest rest' : List Char} (ha : x ∉ a) (hb : x ∉ b)
    (h : a ++ x :: rest = b ++ x :: rest') : a = b ∧ rest = rest' := by
  rcases List.append_eq_append_iff.1 h with ⟨tail, rfl, htail⟩ | ⟨tail, rfl, htail⟩ <;>
  · cases tail with
    | nil =>
      obtain ⟨-, rfl⟩ := List.cons.inj htail
      simp
    | cons y tail =>
      rw [List.cons_append] at htail
      obtain ⟨rfl, -⟩ := List.cons.inj htail
      simp at ha hb

/-- A numeral has no sign but the one that it may begin with, and no parentheses. -/
theorem Numeral.exists_cons {cs : List Char} (h : Numeral ['-'] cs) :
    ∃ c rest, cs = c :: rest ∧ '-' ∉ rest ∧ '(' ∉ cs ∧ ')' ∉ cs := by
  have hmagnitude {cs : List Char} (h : Magnitude cs) : '-' ∉ cs ∧ '(' ∉ cs ∧ ')' ∉ cs := by
    refine ⟨fun hc => ?_, fun hc => ?_, fun hc => ?_⟩ <;>
    · have := h.eq_digit_or_point _ hc
      revert this
      decide +kernel
  cases h with
  | unsigned h =>
    obtain ⟨c, rest, rfl⟩ := List.exists_cons_of_ne_nil h.ne_nil
    obtain ⟨hminus, hopen, hclose⟩ := hmagnitude h
    exact ⟨c, rest, rfl, fun hmem => hminus (List.mem_cons_of_mem _ hmem), hopen, hclose⟩
  | @signed sign rest hsign h =>
    obtain ⟨hminus, hopen, hclose⟩ := hmagnitude h
    rw [List.mem_singleton.1 hsign]
    exact ⟨'-', rest, rfl, hminus, by simpa using hopen, by simpa using hclose⟩

theorem IsRange.notMem {bounds : List Char × List Char} (h : IsRange bounds) :
    '(' ∉ bounds.1 ++ '-' :: bounds.2 ∧ ')' ∉ bounds.1 ++ '-' :: bounds.2 := by
  obtain ⟨_, _, -, -, hopen, hclose⟩ := h.1.exists_cons
  obtain ⟨_, _, -, -, hopen', hclose'⟩ := h.2.exists_cons
  simp [hopen, hclose, hopen', hclose']

/-- A range at the start of a text is determined by the text. -/
theorem rangeText_append_inj {b b' : List Char × List Char} {rest rest' : List Char}
    (hb : IsRange b) (hb' : IsRange b') (h : rangeText b ++ rest = rangeText b' ++ rest') :
    b = b' ∧ rest = rest' := by
  simp only [rangeText, List.append_assoc, List.singleton_append] at h
  obtain ⟨hbounds, hrest⟩ :=
    append_cons_inj_of_notMem hb.notMem.2 hb'.notMem.2 (List.cons.inj h).2
  obtain ⟨c, left, hleft, hminus, -⟩ := hb.1.exists_cons
  obtain ⟨c', left', hleft', hminus', -⟩ := hb'.1.exists_cons
  rw [hleft, hleft', List.cons_append, List.cons_append] at hbounds
  obtain ⟨rfl, hafter⟩ := List.cons.inj hbounds
  obtain ⟨rfl, hright⟩ := append_cons_inj_of_notMem hminus hminus' hafter
  exact ⟨Prod.ext (hleft.trans hleft'.symm) hright, hrest⟩

/-- A range that begins within a text without ranges does not end after another has begun. -/
theorem eq_nil_of_overlap {piece x rest rest' : List Char} {b b' : List Char × List Char}
    (hb : IsRange b) (hpiece : ¬ HasRange (piece ++ x))
    (h : rangeText b ++ rest = x ++ (rangeText b' ++ rest')) : x = [] := by
  rcases List.append_eq_append_iff.1 h with ⟨y, rfl, -⟩ | ⟨y, hx, hy⟩
  · exact absurd ⟨piece, b, y, hb, rfl⟩ hpiece
  cases y with
  | nil =>
    rw [List.append_nil] at hx
    exact absurd ⟨piece, b, [], hb, by rw [hx, List.append_nil]⟩ hpiece
  | cons c y =>
    obtain ⟨rfl, -⟩ := List.cons.inj hy
    cases x with
    | nil => rfl
    | cons d x =>
      -- The parenthesis that opens the other range would stand within this one.
      have hrest : (b.1 ++ '-' :: b.2) ++ [')'] = x ++ '(' :: y := (List.cons.inj hx).2
      have hmem : '(' ∈ (b.1 ++ '-' :: b.2) ++ [')'] := by simp [hrest]
      rcases List.mem_append.1 hmem with hmem | hmem
      · exact absurd hmem hb.notMem.1
      · simp at hmem

theorem first_range_unique {piece piece' rest rest' : List Char} {b b' : List Char × List Char}
    (hb : IsRange b) (hb' : IsRange b') (hpiece : ¬ HasRange piece) (hpiece' : ¬ HasRange piece')
    (h : piece ++ (rangeText b ++ rest) = piece' ++ (rangeText b' ++ rest')) :
    piece = piece' ∧ b = b' ∧ rest = rest' := by
  have hsame : piece = piece' := by
    rcases List.append_eq_append_iff.1 h with ⟨x, rfl, hx⟩ | ⟨x, rfl, hx⟩
    · rw [eq_nil_of_overlap hb hpiece' hx, List.append_nil]
    · rw [eq_nil_of_overlap hb' hpiece hx, List.append_nil]
  subst hsame
  exact ⟨rfl, rangeText_append_inj hb hb' (List.append_cancel_left h)⟩

/-! ### Templates -/

/-- A text cut at all its ranges: the text before each range and after the last, and the bounds of
each as written. -/
structure Template (text : List Char) (pieces : List (List Char))
    (bounds : List (List Char × List Char)) : Prop where
  woven : Woven pieces (bounds.map rangeText) text
  ranges : ∀ b ∈ bounds, IsRange b
  pieces : ∀ piece ∈ pieces, ¬ HasRange piece

theorem template_splitRangesWithin {limit : Nat} {text : List Char} (h : text.length ≤ limit) :
    Template text (splitRangesWithin limit text).1 (splitRangesWithin limit text).2 := by
  have hlast {text : List Char} (hplain : ¬ HasRange text) : Template text [text] [] :=
    ⟨.last text, by simp, by simpa using hplain⟩
  induction limit generalizing text with
  | zero =>
    rw [List.length_eq_zero_iff.1 (Nat.le_zero.1 h)]
    refine hlast ?_
    rintro ⟨before, bounds, after, -, htext⟩
    simp [rangeText] at htext
  | succ limit ih =>
    rw [splitRangesWithin]
    cases hfind : rangePattern.find? text with
    | none => exact hlast (not_hasRange_of_find?_rangePattern hfind)
    | some m =>
      obtain ⟨bounds, hbounds, htext, hgroups, hplain⟩ := eq_of_find?_rangePattern hfind
      have hshorter : m.after.length ≤ limit := by
        rw [htext] at h
        simp [rangeText] at h
        omega
      have hmore := ih hshorter
      dsimp only
      rw [hgroups]
      refine ⟨?_, List.forall_mem_cons.2 ⟨hbounds, hmore.ranges⟩,
        List.forall_mem_cons.2 ⟨hplain, hmore.pieces⟩⟩
      conv => rhs; rw [htext]
      exact .next _ _ hmore.woven

theorem Template.nil_inv {text : List Char} {pieces : List (List Char)}
    (h : Template text pieces []) : pieces = [text] ∧ ¬ HasRange text := by
  obtain ⟨hwoven, -, hpieces⟩ := h
  cases hwoven with
  | last => exact ⟨rfl, hpieces _ List.mem_cons_self⟩

theorem Template.cons_inv {text : List Char} {pieces : List (List Char)}
    {b : List Char × List Char} {bounds : List (List Char × List Char)}
    (h : Template text pieces (b :: bounds)) :
    ∃ piece more rest, pieces = piece :: more ∧ text = piece ++ (rangeText b ++ rest) ∧
      IsRange b ∧ ¬ HasRange piece ∧ Template rest more bounds := by
  obtain ⟨hwoven, hranges, hpieces⟩ := h
  cases hwoven with
  | next piece _ hwoven =>
    rw [List.forall_mem_cons] at hranges hpieces
    exact ⟨piece, _, _, rfl, rfl, hranges.1, hpieces.1, hwoven, hranges.2, hpieces.2⟩

/-- A text is cut at its ranges in one way. -/
theorem Template.unique {text : List Char} {pieces pieces' : List (List Char)}
    {bounds bounds' : List (List Char × List Char)} (h : Template text pieces bounds)
    (h' : Template text pieces' bounds') : pieces = pieces' ∧ bounds = bounds' := by
  induction bounds generalizing text pieces pieces' bounds' with
  | nil =>
    obtain ⟨rfl, hplain⟩ := h.nil_inv
    cases bounds' with
    | nil => exact ⟨h'.nil_inv.1.symm, rfl⟩
    | cons b' bounds' =>
      obtain ⟨piece, -, rest, -, rfl, hb', -⟩ := h'.cons_inv
      exact absurd ⟨piece, b', rest, hb', rfl⟩ hplain
  | cons b bounds ih =>
    obtain ⟨piece, more, rest, rfl, rfl, hb, hpiece, hmore⟩ := h.cons_inv
    cases bounds' with
    | nil => exact absurd ⟨piece, b, rest, hb, rfl⟩ h'.nil_inv.2
    | cons b' bounds' =>
      obtain ⟨piece', more', rest', rfl, htext, hb', hpiece', hmore'⟩ := h'.cons_inv
      obtain ⟨rfl, rfl, rfl⟩ := first_range_unique hb hb' hpiece hpiece' htext
      obtain ⟨rfl, rfl⟩ := ih hmore hmore'
      exact ⟨rfl, rfl⟩

theorem template_splitRanges (text : List Char) :
    Template text (splitRanges text).1 (splitRanges text).2 :=
  template_splitRangesWithin (Nat.le_refl _)

/-- The cut of a text at its ranges is its template. -/
theorem splitRanges_eq_iff {text : List Char} {pieces : List (List Char)}
    {bounds : List (List Char × List Char)} :
    splitRanges text = (pieces, bounds) ↔ Template text pieces bounds := by
  constructor
  · intro h
    have htemplate := template_splitRanges text
    rwa [h] at htemplate
  · intro h
    obtain ⟨hpieces, hbounds⟩ := (template_splitRanges text).unique h
    exact Prod.ext hpieces hbounds

theorem not_hasRange_iff {text : List Char} : ¬ HasRange text ↔ (splitRanges text).2 = [] := by
  have htemplate := template_splitRanges text
  constructor
  · intro hplain
    cases hbounds : (splitRanges text).2 with
    | nil => rfl
    | cons b bounds =>
      rw [hbounds] at htemplate
      obtain ⟨piece, -, rest, -, htext, hb, -⟩ := htemplate.cons_inv
      exact absurd ⟨piece, b, rest, hb, htext⟩ hplain
  · intro hbounds
    rw [hbounds] at htemplate
    exact htemplate.nil_inv.2

instance (text : List Char) : Decidable (HasRange text) :=
  decidable_of_iff (¬ (splitRanges text).2 = []) (by rw [← not_hasRange_iff, not_not])

end Loadout
