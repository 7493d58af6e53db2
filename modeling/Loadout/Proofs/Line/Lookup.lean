import Loadout.Proofs.Document.Lists
import Loadout.Proofs.Line.Ranges

/-!
# Which known line answers a line

A row of the table without ranges answers the line that is its own text in normal form. A row
with ranges answers the lines that have its literal pieces and, in the place of each range, a
numeral whose value lies between the bounds. The table is looked up as if its rows were asked in
turn, those without ranges before those with ranges: the first that answers counts.

The literal pieces are matched as they stand, and where each piece between two ranges has a
character that is not numeric they leave one way to read the numbers, so nothing depends on which
match of the row's pattern is preferred.

## Main definitions

* `KnownRow.Stands`, `KnownRow.Answers`: when a row answers a line, and with which numbers
* `KnownRow.Separated`: pieces between ranges have a character that is not numeric
* `IsFirst`: the first member of a list that has a property

## Main results

* `RangedEntry.numbers?_eq_some_iff`: a ranged entry reads the numbers of the lines it fits
* `KnownLines.lookup?_eq_findSome?`: the table is its rows asked in turn
* `KnownLines.lookup?_eq_some_iff_first`: which row answers a line
-/

namespace Loadout

open Pattern

variable {ν : Type} [Scalar ν]

/-! ### Answers of a row -/

/-- A number lies between two bounds as written, in either order, ends included. -/
def Between (bounds : List Char × List Char) (x : ν) : Prop :=
  ∃ a b : ν, readNumber? bounds.1 = some a ∧ readNumber? bounds.2 = some b ∧
    if b < a then b ≤ x ∧ x ≤ a else a ≤ x ∧ x ≤ b

/-- A text has literal pieces with, in the place of each range between them, a numeral of a value
within the bounds. -/
def Fits (pieces : List (List Char)) (bounds : List (List Char × List Char)) (text : List Char)
    (numbers : List ν) : Prop :=
  ∃ numerals, Woven pieces numerals text ∧ (∀ n ∈ numerals, Numeral ['+', '-'] n) ∧
    List.Forall₂ (fun n x => readNumber? n = some x) numerals numbers ∧
    List.Forall₂ Between bounds numbers

namespace KnownRow

omit [Scalar ν] in
/-- A row without ranges answers its own text in normal form. -/
def Stands (row : KnownRow ν) (text : String) : Prop :=
  ¬ HasRange (Text.normal row.text).toList ∧ Text.normal row.text = text

omit [Scalar ν] in
instance (row : KnownRow ν) (text : String) : Decidable (row.Stands text) :=
  inferInstanceAs (Decidable (_ ∧ _))

/-- A row with ranges answers a line that has numbers within the bounds in their place. -/
def Answers (row : KnownRow ν) (text : String) (numbers : List ν) : Prop :=
  ∃ pieces bounds, Template (Text.normal row.text).toList pieces bounds ∧ bounds ≠ [] ∧
    Fits pieces bounds text.toList numbers

omit [Scalar ν] in
/-- Every piece between two ranges has a character that is not numeric. -/
def Separated (row : KnownRow ν) : Prop :=
  ∀ pieces bounds, Template (Text.normal row.text).toList pieces bounds →
    ∀ piece ∈ pieces.tail.dropLast, ∃ c ∈ piece, isNumeric c = false

end KnownRow

/-- The first member of a list that has a property. -/
def IsFirst {α : Type} (P : α → Prop) (as : List α) (a : α) : Prop :=
  ∃ before after, as = before ++ a :: after ∧ P a ∧ ∀ b ∈ before, ¬ P b

/-! ### Numbers of a line -/

omit [Scalar ν] in
theorem Woven.length_eq {pieces fillers : List (List Char)} {text : List Char}
    (h : Woven pieces fillers text) : fillers.length + 1 = pieces.length := by
  induction h with
  | last => rfl
  | next _ _ _ ih => rw [List.length_cons, List.length_cons, ih]

theorem leads_wholeLine {pieces : List (List Char)} (hne : pieces ≠ []) {p q : Place} :
    (wholeLine pieces).Leads p q ↔ p.before = [] ∧ ∃ ns, Woven pieces ns p.rest ∧
      (∀ n ∈ ns, Numeral ['+', '-'] n) ∧
      q = ⟨p.rest.reverse, [], numberCaptures 1 ns ++ p.captures⟩ := by
  have hspans := spans_withNumerals 1 hne
  constructor
  · rintro ⟨_, ⟨hstart, rfl⟩, m, hm, _, ⟨hend, rfl⟩, rfl⟩
    obtain ⟨cs, _, rest, hrest, ⟨ns, hns, hall, rfl⟩, rfl⟩ := (hspans _ _).1 hm
    have hbefore := List.isEmpty_iff.1 hstart
    have hafter : rest = [] := List.isEmpty_iff.1 hend
    subst hafter
    rw [List.append_nil] at hrest
    rw [hrest, hbefore, List.append_nil]
    exact ⟨rfl, ns, hns, hall, rfl⟩
  · rintro ⟨hbefore, ns, hns, hall, rfl⟩
    refine ⟨p, ⟨List.isEmpty_iff.2 hbefore, rfl⟩, _, (hspans _ _).2
      ⟨p.rest, _, [], (List.append_nil _).symm, ⟨ns, hns, hall, rfl⟩, rfl⟩, _, ⟨rfl, rfl⟩, ?_⟩
    rw [hbefore, List.append_nil]
    rfl

theorem find?_wholeLine {pieces : List (List Char)} (hne : pieces ≠ []) {text : List Char}
    {m : Match} (h : (wholeLine pieces).find? text = some m) :
    ∃ ns, Woven pieces ns text ∧ (∀ n ∈ ns, Numeral ['+', '-'] n) ∧
      ∀ i, m.group? (i + 1) = ns[i]? := by
  obtain ⟨skipped, more, rfl, ⟨q, hq, rfl⟩, -⟩ := foundAt_of_findAfter? h
  obtain ⟨hskipped, ns, hns, hall, rfl⟩ := (leads_wholeLine hne).1 hq
  have hnil : skipped = [] := by simpa using hskipped
  subst hnil
  refine ⟨ns, hns, hall, fun i => ?_⟩
  dsimp only [Match.group?]
  rw [List.append_nil, lookup_numberCaptures, if_neg (by omega), Nat.add_sub_cancel]

theorem exists_find?_wholeLine {pieces ns : List (List Char)} {text : List Char}
    (h : Woven pieces ns text) (hns : ∀ n ∈ ns, Numeral ['+', '-'] n) :
    ∃ m, (wholeLine pieces).find? text = some m := by
  have hne : pieces ≠ [] := by
    rintro rfl
    exact not_woven_nil h
  cases hfind : (wholeLine pieces).find? text with
  | some m => exact ⟨m, rfl⟩
  | none => exact (findAfter?_eq_none_iff.1 hfind [] text _ rfl
      ((leads_wholeLine hne).2 ⟨rfl, ns, h, hns, rfl⟩)).elim

theorem between_iff {bounds : List Char × List Char} {range : ν × ν}
    (h : readRange? bounds = some range) (x : ν) :
    Between bounds x ↔ range.1 ≤ x ∧ x ≤ range.2 := by
  simp only [readRange?, Option.bind_eq_bind, Option.bind_eq_some_iff, Option.pure_def,
    Option.some.injEq] at h
  obtain ⟨a, ha, b, hb, rfl⟩ := h
  constructor
  · rintro ⟨a', b', ha', hb', hbetween⟩
    obtain rfl : a = a' := Option.some.inj (ha.symm.trans ha')
    obtain rfl : b = b' := Option.some.inj (hb.symm.trans hb')
    split at hbetween <;> rename_i hlt
    · rwa [if_pos hlt]
    · rwa [if_neg hlt]
  · intro hbetween
    refine ⟨a, b, ha, hb, ?_⟩
    split <;> rename_i hlt
    · rwa [if_pos hlt] at hbetween
    · rwa [if_neg hlt] at hbetween

/-- Numbers lie within the ranges that bounds are read as when they lie between the bounds. -/
theorem all_zip_iff {bounds : List (List Char × List Char)} {ranges : List (ν × ν)}
    (h : List.Forall₂ (fun b range => readRange? b = some range) bounds ranges) (numbers : List ν)
    (hlength : numbers.length = ranges.length) :
    ((numbers.zip ranges).all fun entry => entry.2.1 ≤ entry.1 && entry.1 ≤ entry.2.2) = true ↔
      List.Forall₂ Between bounds numbers := by
  induction h generalizing numbers with
  | nil =>
    rw [List.length_eq_zero_iff.1 hlength]
    simp
  | @cons b range bounds ranges hb _ ih =>
    obtain ⟨x, numbers, rfl⟩ := List.exists_cons_of_length_eq_add_one hlength
    rw [List.zip_cons_cons, List.all_cons, Bool.and_eq_true,
      ih numbers (by simpa using hlength),
      List.forall₂_cons, between_iff hb, Bool.and_eq_true, decide_eq_true_eq, decide_eq_true_eq]

/-- An entry with the pieces of a row and the ranges between its bounds reads the numbers of
exactly the lines that fit. -/
theorem RangedEntry.numbers?_eq_some_iff {e : RangedEntry ν}
    {bounds : List (List Char × List Char)} (hpattern : e.pattern = wholeLine e.pieces)
    (hranges : bounds.mapM readRange? = some e.ranges)
    (hlength : bounds.length + 1 = e.pieces.length)
    (hsep : ∀ piece ∈ e.pieces.tail.dropLast, ∃ c ∈ piece, isNumeric c = false)
    {text : List Char} {numbers : List ν} :
    e.numbers? text = some numbers ↔ Fits e.pieces bounds text numbers := by
  rw [mapM_eq_some_iff] at hranges
  have hne : e.pieces ≠ [] := List.ne_nil_of_length_eq_add_one hlength.symm
  -- The numerals of the match are those of any way to fill the pieces, which is the only one.
  have hread {m : Match} (hfind : e.pattern.find? text = some m) {ns : List (List Char)}
      (hns : Woven e.pieces ns text) (hnumerals : ∀ n ∈ ns, Numeral ['+', '-'] n) :
      ((List.range e.ranges.length).mapM fun i => (m.group? (i + 1)).bind readNumber?) =
        ns.mapM (readNumber? : List Char → Option ν) := by
    rw [hpattern] at hfind
    obtain ⟨ns', hns', hnumerals', hgroups⟩ := find?_wholeLine hne hfind
    obtain rfl := hns'.unique hsep hns (fun n hn => (hnumerals' n hn).isNumeric)
      fun n hn => (hnumerals n hn).isNumeric
    have hcount := hns.length_eq
    rw [← hranges.length_eq, show bounds.length = ns'.length by omega,
      ← mapM_range_getElem? readNumber? ns']
    simp only [hgroups]
  have hwithin {numerals : List (List Char)} (hnumerals : Woven e.pieces numerals text)
      (hnumbers : List.Forall₂ (fun n x => readNumber? n = some x) numerals numbers) :=
    all_zip_iff hranges numbers (by
      have := hnumerals.length_eq
      rw [← hnumbers.length_eq, ← hranges.length_eq]
      omega)
  simp only [RangedEntry.numbers?, Option.bind_eq_bind, Option.bind_eq_some_iff, Option.pure_def,
    Option.some.injEq, Option.guard_eq_some']
  constructor
  · rintro ⟨m, hm, _, hmap, -, hguard, rfl⟩
    obtain ⟨ns, hns, hnumerals, -⟩ := find?_wholeLine hne (hpattern ▸ hm)
    rw [hread hm hns hnumerals, mapM_eq_some_iff] at hmap
    exact ⟨ns, hns, hnumerals, hmap, (hwithin hns hmap).1 hguard⟩
  · rintro ⟨ns, hns, hnumerals, hnumbers, hbetween⟩
    obtain ⟨m, hm⟩ := exists_find?_wholeLine hns hnumerals
    rw [← hpattern] at hm
    refine ⟨m, hm, numbers, ?_, (), (hwithin hns hnumbers).2 hbetween, rfl⟩
    rw [hread hm hns hnumerals, mapM_eq_some_iff]
    exact hnumbers

/-! ### Rows asked in turn -/

namespace KnownRow

/-- What a row without ranges answers a line, before it is put in a table. -/
def standing? (row : KnownRow ν) (text : String) : Option (KnownEntry ν) :=
  if (splitRanges (Text.normal row.text).toList).2 = [] ∧ Text.normal row.text = text then
    (KnownLines.entryOf? row).toOption
  else
    none

/-- The entry of a row with ranges. -/
def ranged? (row : KnownRow ν) : Option (RangedEntry ν) :=
  let (pieces, bounds) := splitRanges (Text.normal row.text).toList
  if bounds = [] then
    none
  else do
    let ranges ← bounds.mapM readRange?
    let entry ← (KnownLines.entryOf? row).toOption
    return { pieces, pattern := wholeLine pieces, ranges, entry }

/-- What a row with ranges answers a line. -/
def answer? (row : KnownRow ν) (text : String) : Option (KnownHit ν) :=
  row.ranged?.bind fun e => (e.numbers? text.toList).map fun numbers => ⟨e.entry, numbers⟩

/-- A row that a table accepts: its flags have names and its bounds can be read. -/
structure Admitted (row : KnownRow ν) : Prop where
  entry : ∃ entry, KnownLines.entryOf? row = .ok entry
  ranges : ∃ ranges : List (ν × ν),
    (splitRanges (Text.normal row.text).toList).2.mapM readRange? = some ranges

end KnownRow

namespace KnownLines

/-- What a table with one row more is, when the row is accepted. -/
theorem add?_eq_ok {lines lines' : KnownLines ν} {row : KnownRow ν}
    (h : lines.add? row = .ok lines') :
    row.Admitted ∧
      (∀ text : String, lines'.exact[text]? = lines.exact[text]?.or (row.standing? text)) ∧
      lines'.ranged = lines.ranged ++ row.ranged?.toList := by
  unfold add? at h
  cases hentry : entryOf? row with
  | error fault => rw [hentry] at h; cases h
  | ok entry =>
    rw [hentry] at h
    cases hsplit : splitRanges (Text.normal row.text).toList with
    | mk pieces bounds =>
    dsimp only [bind, Except.bind] at h
    rw [hsplit] at h
    cases bounds with
    | nil =>
      cases h
      refine ⟨⟨⟨entry, hentry⟩, [], by rw [hsplit]; rfl⟩, fun text => ?_, ?_⟩
      · rw [Std.HashMap.getElem?_insertIfNew]
        by_cases htext : Text.normal row.text = text
        · subst htext
          simp only [KnownRow.standing?, hsplit, hentry]
          by_cases hknown : Text.normal row.text ∈ lines.exact
          · simp [hknown]
          · simp [hknown, Except.toOption]
        · simp [KnownRow.standing?, htext]
      · simp [KnownRow.ranged?, hsplit]
    | cons b bounds =>
      cases hranges : (b :: bounds).mapM (readRange? : _ → Option (ν × ν)) with
      | none =>
        simp only [hranges] at h
        cases h
      | some ranges =>
        simp only [hranges] at h
        cases h
        refine ⟨⟨⟨entry, hentry⟩, ranges, by rw [hsplit]; exact hranges⟩, fun text => ?_, ?_⟩
        · simp [KnownRow.standing?, hsplit]
        · simp [KnownRow.ranged?, hsplit, hranges, hentry, Except.toOption]

/-- A table is its rows put in one after the other, each of which it accepts. -/
theorem foldlM_add?_eq_ok {rows : List (KnownRow ν)} {lines lines' : KnownLines ν}
    (h : rows.foldlM add? lines = .ok lines') :
    (∀ row ∈ rows, row.Admitted) ∧
      (∀ text : String, lines'.exact[text]? =
        lines.exact[text]?.or (rows.findSome? fun row => row.standing? text)) ∧
      lines'.ranged = lines.ranged ++ rows.filterMap KnownRow.ranged? := by
  induction rows generalizing lines with
  | nil =>
    cases h
    exact ⟨by simp, by simp, by simp⟩
  | cons row rows ih =>
    rw [List.foldlM_cons] at h
    cases hadd : lines.add? row with
    | error fault => rw [hadd] at h; cases h
    | ok more =>
      rw [hadd] at h
      obtain ⟨hrow, hexact, hranged⟩ := add?_eq_ok hadd
      obtain ⟨hrows, hexact', hranged'⟩ := ih h
      refine ⟨List.forall_mem_cons.2 ⟨hrow, hrows⟩, fun text => ?_, ?_⟩
      · rw [hexact', hexact, Option.or_assoc, List.findSome?_cons]
        cases row.standing? text <;> rfl
      · rw [hranged', hranged, List.append_assoc, List.filterMap_cons]
        cases row.ranged? <;> rfl

/-- A table is looked up as if its rows were asked in turn, those without ranges first. -/
theorem lookup?_eq_findSome? {rows : List (KnownRow ν)} {lines : KnownLines ν}
    (h : ofRows? rows = .ok lines) (text : String) :
    lines.lookup? text =
      ((rows.findSome? fun row => row.standing? text).map (⟨·, []⟩)).or
        (rows.findSome? fun row => row.answer? text) := by
  obtain ⟨-, hexact, hranged⟩ := foldlM_add?_eq_ok h
  have hexact := hexact text
  simp only [empty, Std.HashMap.getElem?_empty, Option.none_or] at hexact
  rw [lookup?, hexact, hranged]
  cases rows.findSome? fun row => row.standing? text with
  | some entry => rfl
  | none =>
    rw [empty, List.nil_append, ← List.head?_filterMap, List.filterMap_filterMap,
      List.head?_filterMap]
    rfl

end KnownLines

/-! ### What rows answer -/

namespace KnownRow

variable {row : KnownRow ν} {text : String}

omit [Scalar ν] in
theorem standing?_eq_some_iff {entry : KnownEntry ν} :
    row.standing? text = some entry ↔ row.Stands text ∧ KnownLines.entryOf? row = .ok entry := by
  rw [standing?, Stands, not_hasRange_iff]
  split
  case isTrue h =>
    rw [and_iff_right h]
    cases KnownLines.entryOf? row <;> simp [Except.toOption]
  case isFalse h => simp [h]

theorem Admitted.standing?_eq_none_iff (h : row.Admitted) :
    row.standing? text = none ↔ ¬ row.Stands text := by
  obtain ⟨entry, hentry⟩ := h.entry
  rw [Option.eq_none_iff_forall_ne_some]
  simp only [ne_eq, standing?_eq_some_iff, hentry]
  simp

omit [Scalar ν] in
theorem separated_iff : row.Separated ↔
    ((splitRanges (Text.normal row.text).toList).1.tail.dropLast.all
      (·.any (!isNumeric ·))) = true := by
  simp only [List.all_eq_true, List.any_eq_true, Bool.not_eq_true']
  constructor
  · intro h
    exact h _ _ (template_splitRanges _)
  · intro h pieces bounds htemplate
    rwa [splitRanges_eq_iff.2 htemplate] at h

/-- Rows of a table answer the lines that fit them, with their numbers. -/
theorem Admitted.answer?_eq_some_iff (h : row.Admitted) (hsep : row.Separated)
    {hit : KnownHit ν} :
    row.answer? text = some hit ↔
      row.Answers text hit.numbers ∧ KnownLines.entryOf? row = .ok hit.entry := by
  obtain ⟨entry, hentry⟩ := h.entry
  obtain ⟨ranges, hranges⟩ := h.ranges
  cases hsplit : splitRanges (Text.normal row.text).toList with
  | mk pieces bounds =>
  have htemplate := splitRanges_eq_iff.1 hsplit
  have hanswers : row.Answers text hit.numbers ↔
      bounds ≠ [] ∧ Fits pieces bounds text.toList hit.numbers := by
    constructor
    · rintro ⟨pieces', bounds', htemplate', hne, hfits⟩
      obtain ⟨rfl, rfl⟩ := htemplate.unique htemplate'
      exact ⟨hne, hfits⟩
    · rintro ⟨hne, hfits⟩
      exact ⟨pieces, bounds, htemplate, hne, hfits⟩
  rw [hanswers, hentry]
  rw [hsplit] at hranges
  by_cases hne : bounds = []
  · simp [answer?, ranged?, hsplit, hne]
  · let e : RangedEntry ν := ⟨pieces, wholeLine pieces, ranges, entry⟩
    have hlength := htemplate.woven.length_eq
    rw [List.length_map] at hlength
    have hnumbers : e.numbers? text.toList = some hit.numbers ↔ _ :=
      RangedEntry.numbers?_eq_some_iff rfl hranges hlength (hsep pieces bounds htemplate)
    have hanswer : row.answer? text = (e.numbers? text.toList).map fun numbers =>
        ⟨entry, numbers⟩ := by
      simp [answer?, ranged?, hsplit, hne, hranges, hentry, Except.toOption, e]
    rw [hanswer, and_iff_right hne, ← hnumbers, Option.map_eq_some_iff]
    constructor
    · rintro ⟨numbers, hread, rfl⟩
      exact ⟨hread, rfl⟩
    · rintro ⟨hread, hsame⟩
      cases hsame
      exact ⟨hit.numbers, hread, rfl⟩

theorem Admitted.answer?_eq_none_iff (h : row.Admitted) (hsep : row.Separated) :
    row.answer? text = none ↔ ¬ ∃ numbers : List ν, row.Answers text numbers := by
  obtain ⟨entry, hentry⟩ := h.entry
  rw [Option.eq_none_iff_forall_ne_some]
  simp only [ne_eq, h.answer?_eq_some_iff hsep, hentry, not_and, not_exists]
  constructor
  · intro hnone numbers hanswers
    exact hnone ⟨entry, numbers⟩ hanswers rfl
  · intro hnone hit hanswers
    exact absurd hanswers (hnone hit.numbers)

end KnownRow

/-! ### The row that answers -/

omit [Scalar ν] in
/-- Asking the members of a list in turn gives the answer of the first that has one. -/
theorem findSome?_eq_some_iff_isFirst {α β : Type} {f : α → Option β} {P : α → Prop} {as : List α}
    (h : ∀ a ∈ as, f a = none ↔ ¬ P a) {b : β} :
    as.findSome? f = some b ↔ ∃ a, IsFirst P as a ∧ f a = some b := by
  rw [List.findSome?_eq_some_iff]
  constructor
  · rintro ⟨before, a, after, rfl, ha, hbefore⟩
    refine ⟨a, ⟨before, after, rfl, ?_, fun c hc => ?_⟩, ha⟩
    · by_contra hP
      rw [(h a (by simp)).2 hP] at ha
      cases ha
    · exact (h c (List.mem_append_left _ hc)).1 (hbefore c hc)
  · rintro ⟨a, ⟨before, after, rfl, -, hbefore⟩, ha⟩
    exact ⟨before, a, after, rfl, ha, fun c hc =>
      (h c (List.mem_append_left _ hc)).2 (hbefore c hc)⟩

/-- In a table that is accepted, a line is answered by the first row without ranges that stands
for it. When there is none it is answered by the first row with ranges that the line fits, its
pieces taken as they stand, with the numbers of the line in order. When there is none either the
line is not answered. -/
theorem KnownLines.lookup?_eq_some_iff_first {rows : List (KnownRow ν)} {lines : KnownLines ν}
    (h : ofRows? rows = .ok lines) (hsep : ∀ row ∈ rows, row.Separated) (text : String) :
    (∀ hit, lines.lookup? text = some hit ↔
      (∃ row, IsFirst (KnownRow.Stands · text) rows row ∧ entryOf? row = .ok hit.entry ∧
        hit.numbers = []) ∨
      (∀ row ∈ rows, ¬ row.Stands text) ∧
        ∃ row, IsFirst (fun row => ∃ numbers : List ν, row.Answers text numbers) rows row ∧
          entryOf? row = .ok hit.entry ∧ row.Answers text hit.numbers) ∧
    (lines.lookup? text = none ↔
      ∀ row ∈ rows, ¬ row.Stands text ∧ ∀ numbers : List ν, ¬ row.Answers text numbers) := by
  obtain ⟨hadmitted, -⟩ := foldlM_add?_eq_ok h
  have hstands : ∀ row ∈ rows, row.standing? text = none ↔ ¬ row.Stands text :=
    fun row hrow => (hadmitted row hrow).standing?_eq_none_iff
  have hanswers : ∀ row ∈ rows, row.answer? text = none ↔
      ¬ ∃ numbers : List ν, row.Answers text numbers :=
    fun row hrow => (hadmitted row hrow).answer?_eq_none_iff (hsep row hrow)
  have hstanding (entry : KnownEntry ν) :
      (rows.findSome? fun row => row.standing? text) = some entry ↔
        ∃ row, IsFirst (KnownRow.Stands · text) rows row ∧ entryOf? row = .ok entry := by
    rw [findSome?_eq_some_iff_isFirst hstands]
    refine exists_congr fun row => and_congr_right fun hfirst => ?_
    obtain ⟨-, -, -, hrow, -⟩ := hfirst
    rw [KnownRow.standing?_eq_some_iff, and_iff_right hrow]
  have hanswering (hit : KnownHit ν) :
      (rows.findSome? fun row => row.answer? text) = some hit ↔
        ∃ row, IsFirst (fun row => ∃ numbers : List ν, row.Answers text numbers) rows row ∧
          entryOf? row = .ok hit.entry ∧ row.Answers text hit.numbers := by
    rw [findSome?_eq_some_iff_isFirst hanswers]
    refine exists_congr fun row => and_congr_right fun hfirst => ?_
    obtain ⟨before, after, rfl, -, -⟩ := hfirst
    have hrow : row ∈ before ++ row :: after := by simp
    rw [(hadmitted row hrow).answer?_eq_some_iff (hsep row hrow), and_comm]
  have hnone : (rows.findSome? fun row => row.standing? text) = none ↔
      ∀ row ∈ rows, ¬ row.Stands text := by
    rw [List.findSome?_eq_none_iff]
    exact forall₂_congr hstands
  rw [lookup?_eq_findSome? h]
  constructor
  · intro hit
    have hleft : (∃ row, IsFirst (KnownRow.Stands · text) rows row ∧
        entryOf? row = .ok hit.entry ∧ hit.numbers = []) ↔
          (rows.findSome? fun row => row.standing? text) = some hit.entry ∧ hit.numbers = [] := by
      rw [hstanding]
      simp only [← and_assoc, exists_and_right]
    rw [hleft, ← hanswering, ← hnone]
    cases rows.findSome? fun row => row.standing? text with
    | none => simp
    | some entry =>
      obtain ⟨entry', numbers⟩ := hit
      simp [eq_comm]
  · rw [Option.or_eq_none_iff, Option.map_eq_none_iff, hnone, List.findSome?_eq_none_iff]
    constructor
    · rintro ⟨hstand, hanswer⟩ row hrow
      exact ⟨hstand row hrow, not_exists.1 ((hanswers row hrow).1 (hanswer row hrow))⟩
    · intro hall
      exact ⟨fun row hrow => (hall row hrow).1,
        fun row hrow => (hanswers row hrow).2 (not_exists.2 (hall row hrow).2)⟩

/-- A table with a row without ranges and one with two of them, the second written from the
greater bound to the smaller. -/
def coldAdded : List (KnownRow Rat) := [
  { text := "Adds 2 to 11 Cold Damage." },
  { text := "Adds (1-3) to (12-10) Cold Damage", isLocal := true }]

/-- A line with numbers in the ranges has the entry of the row with ranges, with its numbers. A line
that both rows fit has the entry of the row without ranges. -/
theorem KnownLines.lookup?_coldAdded :
    ∃ lines, ofRows? coldAdded = .ok lines ∧
      lines.lookup? "adds 3 to 10.5 cold damage" = some ⟨⟨[], true, false⟩, [3, 21 / 2]⟩ ∧
      lines.lookup? "adds 2 to 11 cold damage" = some ⟨⟨[], false, false⟩, []⟩ := by
  obtain ⟨lines, hlines⟩ := exists_eq_ok_of_toBool (x := ofRows? coldAdded) (by decide +kernel)
  have hsep : ∀ row ∈ coldAdded, row.Separated := by
    simp only [KnownRow.separated_iff]
    decide +kernel
  refine ⟨lines, hlines, ((lookup?_eq_some_iff_first hlines hsep _).1 _).2 (.inr ⟨?_, ?_⟩),
    ((lookup?_eq_some_iff_first hlines hsep _).1 _).2 (.inl ?_)⟩
  · decide +kernel
  · have htemplate : Template (Text.normal "Adds (1-3) to (12-10) Cold Damage").toList
        ["adds ".toList, " to ".toList, " cold damage".toList]
        [("1".toList, "3".toList), ("12".toList, "10".toList)] :=
      splitRanges_eq_iff.1 (by decide +kernel)
    have hfits : Fits ["adds ".toList, " to ".toList, " cold damage".toList]
        [("1".toList, "3".toList), ("12".toList, "10".toList)]
        "adds 3 to 10.5 cold damage".toList ([3, 21 / 2] : List Rat) := by
      refine ⟨["3".toList, "10.5".toList], .next _ _ (.next _ _ (.last _)), ?_, ?_, ?_⟩
      · have hdigits {cs : List Char} (hne : cs ≠ [])
            (h : cs.all Character.isDecimalDigit = true) : Digits cs :=
          ⟨hne, List.all_eq_true.1 h⟩
        exact List.forall_mem_cons.2 ⟨.unsigned (.whole (hdigits (by simp) (by decide +kernel))),
          List.forall_mem_singleton.2 (.unsigned (@Magnitude.fraction "10".toList "5".toList
            (hdigits (by simp) (by decide +kernel)) (hdigits (by simp) (by decide +kernel))))⟩
      · exact .cons (by decide +kernel) (.cons (by decide +kernel) .nil)
      · exact .cons ⟨1, 3, by decide +kernel⟩ (.cons ⟨12, 10, by decide +kernel⟩ .nil)
    refine ⟨_, ⟨[_], [], rfl, ⟨_, _, _, htemplate, by simp, hfits⟩, ?_⟩, rfl,
      _, _, htemplate, by simp, hfits⟩
    rw [List.forall_mem_singleton]
    rintro ⟨numbers, pieces, bounds, hplain, hne, -⟩
    have hbounds : (splitRanges (Text.normal "Adds 2 to 11 Cold Damage.").toList).2 = [] := by
      decide +kernel
    rw [show splitRanges _ = _ from splitRanges_eq_iff.2 hplain] at hbounds
    exact hne hbounds
  · exact ⟨_, ⟨[], _, rfl, by decide +kernel, by simp⟩, rfl, rfl⟩

end Loadout
