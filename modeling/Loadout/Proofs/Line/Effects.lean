import Loadout.Proofs.Line.Exhaustion

/-!
# What a known line produces

A known line gives one modifier for each of its effects. The numbers that the line has at its
ranges are handed out in order, and only an effect that carries a number takes one, so the number
of an effect is found by counting the numeric effects before it. When there are none left, and on
a line without ranges from the start, an effect keeps its own number.

The flags of every flag phrase that is cut out of the line go to each modifier, beside those of
its effect. The loop over the phrases only cuts, and each cut is of a phrase of the table.

## Main definitions

* `KnownRow.Captures`: the numbers that a row with ranges takes from a line
* `EffectRow.valueWith`: the value of an effect when a number is there for it
* `EffectRow.Becomes`: the modifier of an effect

## Main results

* `Grammar.getElem?_fillEffects`: the modifier at a position
* `Grammar.parse_known`: what comes of a line that a known line answers
-/

namespace Loadout

open Pattern

variable {ν : Type}

/-! ### Numbers of the line -/

namespace EffectRow

/-- Whether an effect carries a number. -/
def isNumeric (row : EffectRow ν) : Bool :=
  match row.value with
  | .number _ => true
  | _ => false

variable [Scalar ν]

/-- The value of an effect when a number of the line is there for it, or none is. Only a number
gives way, to that of the line after scaling. -/
def valueWith (row : EffectRow ν) (number : Option ν) : Value ν :=
  match row.value, number with
  | .number _, some n => .number (n * row.scale)
  | value, _ => value

end EffectRow

namespace KnownRow

variable [Scalar ν]

/-- The pattern of a row with ranges matches a line, the numbers are those that are captured at
the ranges, in order, and each lies between the bounds of its range. -/
def Captures (row : KnownRow ν) (line : String) (numbers : List ν) : Prop :=
  ∃ pieces bounds m, Template (Text.normal row.text).toList pieces bounds ∧ bounds ≠ [] ∧
    (wholeLine pieces).find? line.toList = some m ∧
    (∀ k, numbers[k]? = (m.group? (k + 1)).bind readNumber?) ∧ List.Forall₂ Between bounds numbers

theorem captures_of_answer? {row : KnownRow ν} {line : String} {hit : KnownHit ν}
    (h : row.answer? line = some hit) :
    row.Captures line hit.numbers ∧ KnownLines.entryOf? row = .ok hit.entry := by
  obtain ⟨e, hranged, hhit⟩ := Option.bind_eq_some_iff.1 h
  obtain ⟨numbers, hnumbers, rfl⟩ := Option.map_eq_some_iff.1 hhit
  cases hsplit : splitRanges (Text.normal row.text).toList with
  | mk pieces bounds =>
  have htemplate := splitRanges_eq_iff.1 hsplit
  simp only [ranged?, hsplit] at hranged
  split at hranged
  case isTrue => cases hranged
  case isFalse hne =>
    simp only [Option.bind_eq_bind, Option.bind_eq_some_iff, Option.pure_def,
      Option.some.injEq] at hranged
    obtain ⟨ranges, hranges, entry, hentry, rfl⟩ := hranged
    simp only [RangedEntry.numbers?, Option.bind_eq_bind, Option.bind_eq_some_iff, Option.pure_def,
      Option.some.injEq, Option.guard_eq_some'] at hnumbers
    obtain ⟨m, hm, rolled, hread, -, hwithin, rfl⟩ := hnumbers
    have hranges := mapM_eq_some_iff.1 hranges
    have hpieces := htemplate.woven.length_eq
    rw [List.length_map] at hpieces
    obtain ⟨ns, hns, -, hgroups⟩ :=
      find?_wholeLine (List.ne_nil_of_length_eq_add_one hpieces.symm) hm
    -- there are as many groups as ranges, so the numbers are read from all of them
    have hcount : ranges.length = ns.length := by
      have := hns.length_eq
      rw [← hranges.length_eq]
      omega
    simp only [hgroups, hcount, mapM_range_getElem?] at hread
    have hlength : rolled.length = ranges.length :=
      (mapM_eq_some_iff.1 hread).length_eq.symm.trans hcount.symm
    refine ⟨⟨pieces, bounds, m, htemplate, hne, hm, fun k => ?_,
      (all_zip_iff hranges _ hlength).1 hwithin⟩, ?_⟩
    · rw [hgroups]
      exact getElem?_of_mapM_eq_some hread k
    · cases h : KnownLines.entryOf? row with
      | error fault => rw [h] at hentry; cases hentry
      | ok entry' => rw [h] at hentry; cases hentry; rfl

end KnownRow

/-- A line that a table answers is that of a row without ranges, or a row with ranges captures
its numbers. -/
theorem KnownLines.exists_of_lookup? [Scalar ν] {rows : List (KnownRow ν)} {lines : KnownLines ν}
    (h : ofRows? rows = .ok lines) {line : String} {hit : KnownHit ν}
    (hline : lines.lookup? line = some hit) :
    ∃ row ∈ rows, entryOf? row = .ok hit.entry ∧
      (row.Stands line ∧ hit.numbers = [] ∨ row.Captures line hit.numbers) := by
  rw [lookup?_eq_findSome? h, Option.or_eq_some_iff] at hline
  rcases hline with hline | ⟨-, hline⟩
  · obtain ⟨entry, hfound, rfl⟩ := Option.map_eq_some_iff.1 hline
    obtain ⟨row, hrow, hstanding⟩ := List.exists_of_findSome?_eq_some hfound
    obtain ⟨hstands, hentry⟩ := KnownRow.standing?_eq_some_iff.1 hstanding
    exact ⟨row, hrow, hentry, .inl ⟨hstands, rfl⟩⟩
  · obtain ⟨row, hrow, hanswer⟩ := List.exists_of_findSome?_eq_some hline
    obtain ⟨hcaptures, hentry⟩ := KnownRow.captures_of_answer? hanswer
    exact ⟨row, hrow, hentry, .inr hcaptures⟩

/-! ### Flags of the line -/

namespace FlagSet

variable {names : Vocabulary}

theorem has_union (a b : FlagSet names) (position : Nat) :
    (a ∪ b).has position = true ↔ a.has position = true ∨ b.has position = true := by
  have hor : (a ∪ b).has position = (a.has position || b.has position) := BitVec.getLsbD_or
  rw [hor, Bool.or_eq_true]

theorem has_foldl_union {β : Type} (sets : β → FlagSet names) (bs : List β) (start : FlagSet names)
    (position : Nat) :
    (bs.foldl (fun set b => set ∪ sets b) start).has position = true ↔
      start.has position = true ∨ ∃ b ∈ bs, (sets b).has position = true := by
  induction bs generalizing start with
  | nil => simp
  | cons b bs ih => rw [List.foldl_cons, ih, has_union, or_assoc, List.exists_mem_cons_iff]

theorem has_union_foldl {β : Type} (own : FlagSet names) (sets : β → FlagSet names) (bs : List β)
    (position : Nat) :
    (own ∪ bs.foldl (fun set b => set ∪ sets b) .empty).has position = true ↔
      own.has position = true ∨ ∃ b ∈ bs, (sets b).has position = true := by
  have hempty : (FlagSet.empty : FlagSet names).has position = false := BitVec.getLsbD_zero
  rw [has_union, has_foldl_union, hempty, or_iff_right Bool.false_ne_true]

end FlagSet

theorem PhraseSet.Cuts.payload {α : Type} [Scalar ν] {s : PhraseSet α} {text rest : List Char}
    {cuts : List (Found ν α × List Char)} (h : s.Cuts text cuts rest) :
    ∀ cut ∈ cuts, ∃ p ∈ s.phrases, cut.1.payload = p.payload := by
  induction h with
  | stop => simp
  | next hp hcut _ ih =>
    obtain ⟨m, -, rfl, -⟩ := hcut
    exact List.forall_mem_cons.2 ⟨⟨_, hp, rfl⟩, ih⟩

namespace Grammar

variable [Scalar ν] {compile : PatternCompiler} {t : ParserTables ν} {g : Grammar ν}

theorem flagsOfNames?_of_mem_flags (ht : ofTables? compile t = .ok g) {p : Phrase FlagMeaning}
    (hp : p ∈ g.flags.phrases) :
    ∃ row ∈ t.flags,
      flagsOfNames? row.flags row.keywords = .ok (p.payload.flags, p.payload.keywords) := by
  obtain ⟨-, -, -, ⟨flags, hflags, heq⟩, -⟩ := ofTables?_eq_ok ht
  rw [heq] at hp
  obtain ⟨entry, hentry, rfl⟩ := List.mem_map.1 (List.mem_mergeSort.1 hp)
  obtain ⟨row, hrow, hread⟩ := exists_of_forall₂ (mapM_eq_ok_iff.1 hflags) hentry
  obtain ⟨names, hnames, hentry⟩ := bind_eq_ok_iff.1 hread
  obtain rfl := Except.ok.inj hentry
  exact ⟨row, hrow, hnames⟩

/-! ### Modifiers of the effects -/

theorem length_fillEffects (flags : DamageFlags) (keywords : KeywordFlags)
    (effects : List (Effect ν)) (numbers : List ν) :
    (fillEffects flags keywords effects numbers).length = effects.length := by
  induction effects generalizing numbers with
  | nil => rfl
  | cons effect effects ih =>
    unfold fillEffects
    exact congrArg (· + 1) (ih _)

/-- The effects that carry a number take those of the line in turn. -/
theorem getElem?_fillEffects (flags : DamageFlags) (keywords : KeywordFlags)
    (effects : List (Effect ν)) (numbers : List ν) (i : Nat) :
    (fillEffects flags keywords effects numbers)[i]? = effects[i]?.map fun effect =>
      { stat := effect.row.stat
        kind := effect.row.kind
        value := effect.row.valueWith
          numbers[(effects.take i).countP (·.row.isNumeric)]?
        flags := effect.flags ∪ flags
        keywords := effect.keywords ∪ keywords
        condition := effect.row.condition } := by
  induction effects generalizing numbers i with
  | nil => rfl
  | cons effect effects ih =>
    cases i with
    | zero => cases hvalue : effect.row.value <;> cases numbers <;>
        simp [fillEffects, EffectRow.valueWith, hvalue]
    | succ i =>
      cases hvalue : effect.row.value <;> cases numbers <;>
        simp [fillEffects, EffectRow.isNumeric, hvalue, ih]

end Grammar

/-- The modifier of an effect: its value is that of the effect with a number of the line, and its
flags and keywords are those of the effect and those of the phrases that were cut out. -/
structure EffectRow.Becomes [Scalar ν] (effect : EffectRow ν) (number : Option ν)
    (cuts : List (Found ν FlagMeaning × List Char)) (m : Modifier ν) : Prop where
  stat : m.stat = effect.stat
  kind : m.kind = effect.kind
  condition : m.condition = effect.condition
  value : m.value = effect.valueWith number
  sets : ∃ flags keywords, flagsOfNames? effect.flags effect.keywords = .ok (flags, keywords) ∧
    (∀ position, m.flags.has position = true ↔ flags.has position = true ∨
      ∃ cut ∈ cuts, cut.1.payload.flags.has position = true) ∧
    ∀ position, m.keywords.has position = true ↔ keywords.has position = true ∨
      ∃ cut ∈ cuts, cut.1.payload.keywords.has position = true

theorem KnownLines.forall₂_effects {row : KnownRow ν} {entry : KnownEntry ν}
    (h : entryOf? row = .ok entry) :
    List.Forall₂ (fun effect e => e.row = effect ∧
      flagsOfNames? effect.flags effect.keywords = .ok (e.flags, e.keywords))
      row.effects entry.effects := by
  obtain ⟨effects, heffects, hentry⟩ := bind_eq_ok_iff.1 h
  obtain rfl := Except.ok.inj hentry
  refine (mapM_eq_ok_iff.1 heffects).imp fun effect e he => ?_
  obtain ⟨names, hnames, he⟩ := bind_eq_ok_iff.1 he
  obtain rfl := Except.ok.inj he
  exact ⟨rfl, hnames⟩

/-- As many effects in front of a position carry a number in the entry as in its row. -/
theorem KnownLines.countP_take_effects {row : KnownRow ν} {entry : KnownEntry ν}
    (h : entryOf? row = .ok entry) (k : Nat) :
    (entry.effects.take k).countP (·.row.isNumeric) =
      (row.effects.take k).countP EffectRow.isNumeric := by
  have hrows : entry.effects.map (·.row) = row.effects := by
    rw [← List.forall₂_eq_eq_eq, List.forall₂_map_left_iff]
    exact (forall₂_effects h).flip.imp fun _ _ h => h.1
  rw [← hrows, ← List.map_take, List.countP_map]
  rfl

namespace Grammar

variable [Scalar ν] {compile : PatternCompiler} {t : ParserTables ν} {g : Grammar ν}

/-- A known line gives one modifier for each effect of its row: the modifier of that effect with
the number of its turn. -/
theorem becomes_of_ofKnown? {row : KnownRow ν} {hit : KnownHit ν}
    (hentry : KnownLines.entryOf? row = .ok hit.entry) (hshown : hit.entry.displayOnly = false)
    {line : String} {i : Interpretation ν} (hi : ofKnown? g.flags.takeAll? line hit = some i) :
    ∃ cuts rest, g.flags.Cuts line.toList cuts rest ∧
      g.flags.takeAll? line.toList = some (cuts.map Prod.fst, rest) ∧
      i.outcome.support = .full ∧ i.outcome.modifiers.length = row.effects.length ∧
      ∀ (k : Nat) (effect : EffectRow ν), row.effects[k]? = some effect →
        ∃ m, i.outcome.modifiers[k]? = some m ∧
          effect.Becomes hit.numbers[(row.effects.take k).countP EffectRow.isNumeric]? cuts m := by
  have heffects := KnownLines.forall₂_effects hentry
  rw [ofKnown?, hshown, if_neg Bool.false_ne_true, Option.map_eq_some_iff] at hi
  obtain ⟨cut, hcut, rfl⟩ := hi
  obtain ⟨⟨found, rest⟩, hfound, hsome⟩ := Option.bind_eq_some_iff.1 hcut
  obtain rfl := Option.some.inj hsome
  obtain ⟨cuts, hcuts, rfl⟩ := PhraseSet.cuts_takeAll? hfound
  refine ⟨cuts, rest, hcuts, hfound, rfl, ?_, fun k effect heffect => ?_⟩
  · exact (length_fillEffects _ _ _ _).trans heffects.length_eq.symm
  obtain ⟨hk, rfl⟩ := List.getElem?_eq_some_iff.1 heffect
  have hk' : k < hit.entry.effects.length := heffects.length_eq ▸ hk
  obtain ⟨hrow, hnames⟩ := (List.forall₂_iff_get.1 heffects).2 k hk hk'
  rw [List.get_eq_getElem, List.get_eq_getElem] at hrow hnames
  simp only [Outcome.modifiers, List.foldl_map]
  refine ⟨_, by rw [getElem?_fillEffects, List.getElem?_eq_getElem hk', Option.map_some], ?_⟩
  rw [← hrow] at hnames ⊢
  exact ⟨rfl, rfl, rfl, by rw [KnownLines.countP_take_effects hentry], _, _, hnames,
    FlagSet.has_union_foldl _ _ cuts, FlagSet.has_union_foldl _ _ cuts⟩

theorem flagRow_of_mem_cuts (ht : ofTables? compile t = .ok g) {text rest : List Char}
    {cuts : List (Found ν FlagMeaning × List Char)} (h : g.flags.Cuts text cuts rest) :
    ∀ cut ∈ cuts, ∃ row ∈ t.flags, flagsOfNames? row.flags row.keywords =
        .ok (cut.1.payload.flags, cut.1.payload.keywords) := by
  intro cut hcut
  obtain ⟨p, hp, hpayload⟩ := h.payload cut hcut
  rw [hpayload]
  exact flagsOfNames?_of_mem_flags ht hp

/-- In accepted tables, take a line that is answered by a known line which is not for display. It
has no outcome exactly when there is an empty flag phrase, and is read to the end otherwise. It is
then fully supported. The known line is a row without ranges that stands for the line, with no
numbers, or a row with ranges, with the numbers that it captures. Each effect of the row becomes
one modifier, in order. A numeric effect takes the number of the line at the place that it has
among the numeric effects, times its scale, while there are numbers, and every other value stays.
The flags of a modifier are those of its effect and those of all flag phrases that are cut out of
the line, and so are its keywords. -/
theorem parse_known (ht : ofTables? compile t = .ok g) {text : String}
    (htext : Text.normal text ≠ "") {hit : KnownHit ν}
    (hhit : g.known.lookup? (Text.normal text) = some hit)
    (hshown : hit.entry.displayOnly = false) (ctx : LineContext) :
    (g.parse? text ctx = none ↔ ∃ row ∈ t.flags, Text.normal row.phrase = "") ∧
    ∀ o, g.parse? text ctx = some o →
      Ends (fun rounds => g.parseBy? (g.flags.takeWithin? rounds) text ctx) o ∧
      o.support = .full ∧
      ∃ row ∈ t.known, KnownLines.entryOf? row = .ok hit.entry ∧
        (row.Stands (Text.normal text) ∧ hit.numbers = [] ∨
          row.Captures (Text.normal text) hit.numbers) ∧
        ∃ cuts rest, g.flags.Cuts (Text.normal text).toList cuts rest ∧
          g.flags.takeAll? (Text.normal text).toList = some (cuts.map Prod.fst, rest) ∧
          (∀ cut ∈ cuts, ∃ row ∈ t.flags, flagsOfNames? row.flags row.keywords =
            .ok (cut.1.payload.flags, cut.1.payload.keywords)) ∧
          o.modifiers.length = row.effects.length ∧
          ∀ (i : Nat) (effect : EffectRow ν), row.effects[i]? = some effect →
            ∃ m, o.modifiers[i]? = some m ∧
              effect.Becomes hit.numbers[(row.effects.take i).countP EffectRow.isNumeric]?
                cuts m := by
  constructor
  · rw [parse?_eq_none_iff, exists_empty_flag_iff ht, and_iff_right htext,
      and_iff_right (.known hhit hshown)]
  intro o ho
  obtain ⟨row, hrow, hentry, hnumbers⟩ :=
    KnownLines.exists_of_lookup? (ofTables?_eq_ok ht).2.1 hhit
  have hend := ends_parseBy?_iff.2 ho
  rw [parse?, parseBy?_eq htext, interpretBy?, hhit] at ho
  obtain ⟨known, hknown, rfl⟩ := Option.map_eq_some_iff.1 ho
  obtain ⟨cuts, rest, hcuts, hfound, hfull, hlength, hmodifiers⟩ :=
    becomes_of_ofKnown? hentry hshown hknown
  refine ⟨hend, by rw [support_stamp, hfull], row, hrow, hentry, hnumbers, cuts, rest, hcuts,
    hfound, flagRow_of_mem_cuts ht hcuts, ?_, fun i effect heffect => ?_⟩
  · rw [modifiers_stamp, List.length_map, hlength]
  · obtain ⟨m, hm, hbecomes⟩ := hmodifiers i effect heffect
    refine ⟨_, by rw [modifiers_stamp, List.getElem?_map, hm, Option.map_some], ?_⟩
    exact ⟨hbecomes.stat, hbecomes.kind, hbecomes.condition, hbecomes.value, hbecomes.sets⟩

/-- Tables with a row with two ranges, whose effects are two numbers, a switch between them and a
third number, and a flag phrase in its text. -/
def lightningAdded : ParserTables Rat where
  flags := [{ phrase := "to attacks", flags := ["ATTACK"] }]
  known := [
    { text := "Adds (1-3) to (5-9) Lightning Damage to Attacks"
      effects := [
        { stat := "LightningDamageMin", kind := .base, value := .number 1, scale := 1 },
        { stat := "CanShock", kind := .flag, value := .flag true, scale := 1 },
        { stat := "LightningDamageMax", kind := .base, value := .number 5, scale := 2 },
        { stat := "ShockEffect", kind := .increased, value := .number 4, scale := 2 }] }]

/-- The two numbers go to the first two numbers among the effects, and the third keeps its own. -/
theorem parse_known_lightningAdded :
    ∃ g o, ofTables? NamedPattern.compile lightningAdded = .ok g ∧
      g.parse? "Adds 2 to 7 Lightning Damage to Attacks." {} = some o ∧
      o.support = .full ∧ o.modifiers.length = 4 ∧
        ∀ (i : Nat) (value : Value Rat),
          ([.number 2, .flag true, .number 14, .number 4] : List (Value Rat))[i]? = some value →
          ∃ m, o.modifiers[i]? = some m ∧ m.value = value := by
  obtain ⟨g, hg⟩ := exists_eq_ok_of_toBool
    (x := ofTables? NamedPattern.compile lightningAdded) (by decide +kernel)
  have hline : Text.normal "Adds 2 to 7 Lightning Damage to Attacks." =
      "adds 2 to 7 lightning damage to attacks" := by decide +kernel
  have hanswer : (g.known.lookup? "adds 2 to 7 lightning damage to attacks").any
      (fun hit => !hit.entry.displayOnly && hit.numbers == [2, 7]) = true := by
    rw [KnownLines.lookup?_eq_findSome? (ofTables?_eq_ok hg).2.1]
    decide +kernel
  obtain ⟨hit, hhit, hread⟩ := (Option.any_eq_true _ _).1 hanswer
  rw [Bool.and_eq_true, Bool.not_eq_true', beq_iff_eq] at hread
  rw [← hline] at hhit
  obtain ⟨hends, hknown⟩ := parse_known hg (by rw [hline]; decide) hhit hread.1 {}
  have hphrases : ¬ ∃ row ∈ lightningAdded.flags, Text.normal row.phrase = "" := by
    decide +kernel
  obtain ⟨o, ho⟩ := Option.ne_none_iff_exists'.1 (mt hends.1 hphrases)
  obtain ⟨-, hfull, row, hrow, -, -, cuts, -, -, -, -, hlength, hmodifiers⟩ := hknown o ho
  rw [List.mem_singleton.1 hrow] at hlength hmodifiers
  refine ⟨g, o, hg, ho, hfull, hlength, fun i value hvalue => ?_⟩
  have hi : i < 4 := (List.getElem?_eq_some_iff.1 hvalue).1
  obtain ⟨m, hm, hbecomes⟩ := hmodifiers i _ (List.getElem?_eq_getElem hi)
  refine ⟨m, hm, ?_⟩
  rw [hbecomes.value, hread.2]
  have hscaled : (2 * 1 : Rat) = 2 ∧ (7 * 2 : Rat) = 14 := by decide +kernel
  obtain rfl | rfl | rfl | rfl : i = 0 ∨ i = 1 ∨ i = 2 ∨ i = 3 := by omega
  · exact (congrArg Value.number hscaled.1).trans (Option.some.inj hvalue)
  · exact Option.some.inj hvalue
  · exact (congrArg Value.number hscaled.2).trans (Option.some.inj hvalue)
  · exact Option.some.inj hvalue

/-- Tables with a known line and an empty flag phrase. -/
def knownDotted : ParserTables Rat where
  flags := [{ phrase := ".", flags := ["ATTACK"] }]
  known := [
    { text := "keen"
      effects := [{ stat := "Life", kind := .base, value := .number 2, scale := 1 }] }]

/-- A known line is read without end when a flag phrase is empty. -/
theorem parse?_knownDotted :
    ∃ g hit, ofTables? NamedPattern.compile knownDotted = .ok g ∧
      g.known.lookup? (Text.normal "Keen") = some hit ∧ hit.entry.displayOnly = false ∧
      g.parse? "Keen" {} = none ∧
      ∀ rounds, g.parseBy? (g.flags.takeWithin? rounds) "Keen" {} = none := by
  obtain ⟨g, hg⟩ := exists_eq_ok_of_toBool
    (x := ofTables? NamedPattern.compile knownDotted) (by decide +kernel)
  have hanswer : (g.known.lookup? (Text.normal "Keen")).any
      (fun hit => !hit.entry.displayOnly) = true := by
    rw [KnownLines.lookup?_eq_findSome? (ofTables?_eq_ok hg).2.1]
    decide +kernel
  obtain ⟨hit, hhit, hshown⟩ := (Option.any_eq_true _ _).1 hanswer
  rw [Bool.not_eq_true'] at hshown
  have hnone : g.parse? "Keen" {} = none :=
    parse?_eq_none_iff.2 ⟨by decide +kernel, .known hhit hshown,
      (exists_empty_flag_iff hg).2 ⟨_, List.mem_singleton_self _, by decide +kernel⟩⟩
  exact ⟨g, hit, hg, hhit, hshown, hnone, parseBy?_eq_none hnone⟩

end Grammar

end Loadout
