import Loadout.Proofs.Line.Conversions
import Loadout.Proofs.Line.Memory
import Loadout.Proofs.Number.Rational
import Loadout.Proofs.Store.Index

/-!
# From conversion lines to the conversion table

The stat of a line is made from a template of its form and from the types that the line names, and
the table looks for stats that are made from the names of the types. They are spelled alike, and no
two movements share a stat. So a line adds its fraction to one entry at most, that of its pair in
the matrix of its shape, and each entry is the sum of the fractions of its lines in their order,
with the roundings that come with it. A pair that cannot convert has no entry.

## Main definitions

* `ConversionLine.fraction`: the fraction that a line states
* `ConversionLine.fractions`: those of the lines about one movement
* `Parser.load?`: the store of what a list of requests is answered with
* `ConversionTable.ofLines?`: the table that a parser makes of lines

## Main results

* `StepKind.stat_inj`: no two movements have the same stat
* `ConversionLine.load?_eq`: the store of the lines
* `ConversionLine.effects_load`: what it holds for each movement
* `ConversionTable.ofStore_lines`: the table of lines, entry by entry
-/

namespace Loadout

/-! ### Movements and their stats -/

private theorem stat_inj_of_mem : ∀ kind ∈ [StepKind.convert, .gainAsExtra],
    ∀ source ∈ DamageType.all, ∀ target ∈ DamageType.all,
    ∀ kind' ∈ [StepKind.convert, .gainAsExtra],
    ∀ source' ∈ DamageType.all, ∀ target' ∈ DamageType.all,
      kind.stat source target = kind'.stat source' target' →
        kind = kind' ∧ source = source' ∧ target = target' := by
  decide +kernel

/-- No two movements have the same stat. -/
theorem StepKind.stat_inj {kind kind' : StepKind} {source target source' target' : DamageType} :
    kind.stat source target = kind'.stat source' target' ↔
      kind = kind' ∧ source = source' ∧ target = target' := by
  have hmem (kind : StepKind) : kind ∈ [StepKind.convert, .gainAsExtra] := by
    cases kind <;> decide
  constructor
  · exact stat_inj_of_mem kind (hmem kind) source source.mem_all target target.mem_all
      kind' (hmem kind') source' source'.mem_all target' target'.mem_all
  · rintro ⟨rfl, rfl, rfl⟩
    rfl

/-- The matrix of a kind of movement. -/
def ConversionTable.matrix {ν : Type} (t : ConversionTable ν) : StepKind → ConversionMatrix ν
  | .convert => t.conversions
  | .gainAsExtra => t.gains

variable {ν : Type} [Scalar ν]

theorem ConversionTable.get_matrix_ofStore (store : Store ν) (ctx : Context ν) (kind : StepKind)
    (source target : DamageType) :
    ((ofStore store ctx).matrix kind).get source target =
      if source.converts target then
        Scalar.zero + store.sum .base (kind.stat source target) ctx
      else
        Scalar.zero := by
  cases kind <;> cases source <;> cases target <;> rfl

theorem ConversionTable.ofStore_congr {store store' : Store ν} {ctx : Context ν}
    (h : ∀ (kind : StepKind) (source target : DamageType), source.converts target = true →
      store.sum .base (kind.stat source target) ctx =
        store'.sum .base (kind.stat source target) ctx) :
    ofStore store ctx = ofStore store' ctx := by
  have hpair (kind : StepKind) {pair : DamageType × DamageType} (hpair : pair ∈ pairs) :
      store.sum .base (kind.stat pair.1 pair.2) ctx =
        store'.sum .base (kind.stat pair.1 pair.2) ctx := by
    obtain ⟨source, -, hsource⟩ := List.mem_flatMap.1 hpair
    obtain ⟨target, htarget, rfl⟩ := List.mem_map.1 hsource
    exact h kind source target (List.mem_filter.1 htarget).2
  rw [ofStore, ofStore, ConversionTable.mk.injEq]
  constructor
  · exact congrArg _ (List.map_congr_left fun pair hmem =>
      congrArg (fun x => (pair.1, pair.2, x)) (hpair .convert hmem))
  · exact congrArg _ (List.map_congr_left fun pair hmem =>
      congrArg (fun x => (pair.1, pair.2, x)) (hpair .gainAsExtra hmem))

/-! ### Loading -/

/-- The store of what a list of requests is answered with, the modifiers of each answer added in
order. -/
def Parser.load? (p : Parser ν) (requests : List Parser.Request) : Option (Store ν) :=
  (p.serveAll? requests).map fun (answers, _) =>
    answers.flatten.foldl (fun store outcome => store.addAll outcome.modifiers) .empty

omit [Scalar ν] in
theorem Store.foldl_addAll (outcomes : List (Outcome ν)) (store : Store ν) :
    outcomes.foldl (fun store outcome => store.addAll outcome.modifiers) store =
      store.addAll (outcomes.flatMap Outcome.modifiers) := by
  induction outcomes generalizing store with
  | nil => rfl
  | cons outcome outcomes ih =>
    rw [List.foldl_cons, ih, List.flatMap_cons, addAll, addAll, addAll, List.foldl_append]

namespace ConversionLine

/-- The request to read a line at its place. -/
def request (l : ConversionLine) : Parser.Request :=
  .line l.text l.place

/-- The fraction that a line states. -/
def fraction (l : ConversionLine) : ν :=
  l.number.value * ParserTables.hundredth

/-- A line is about a movement between two types. -/
def Names (kind : StepKind) (source target : DamageType) (l : ConversionLine) : Prop :=
  l.shape.kind = kind ∧ l.source = source ∧ l.target = target

instance (kind : StepKind) (source target : DamageType) :
    DecidablePred (Names kind source target) :=
  fun _ => inferInstanceAs (Decidable (_ ∧ _))

/-- The fractions of the lines about a movement, in order. -/
def fractions (kind : StepKind) (source target : DamageType) (lines : List ConversionLine) :
    List ν :=
  (lines.filter (Names kind source target ·)).map fraction

/-- A parser that is faithful to the built-in tables loads the modifiers of lines. -/
theorem load?_eq {g : Grammar ν} (hg : Grammar.ofTables? NamedPattern.compile .builtin = .ok g)
    {p : Parser ν} (hp : p.Faithful g) (lines : List ConversionLine) :
    p.load? (lines.map request) = some (.ofList (lines.map modifier)) := by
  have hanswer (l : ConversionLine) :
      Parser.Request.answer? g l.request = some [.produced [l.modifier] []] := by
    rw [request, Parser.Request.answer?, l.parse?_eq hg, Option.map_some]
  have hanswers : (lines.map request).mapM (·.answer? g) =
      some (lines.map fun l => [.produced [l.modifier] []]) := by
    rw [mapM_eq_some_iff, List.forall₂_map_left_iff, List.forall₂_map_right_iff,
      List.forall₂_same]
    exact fun l _ => hanswer l
  have hmodifiers : (lines.map fun l => [Outcome.produced [l.modifier] []]).flatten.flatMap
      Outcome.modifiers = (lines.map modifier : List (Modifier ν)) := by
    clear hanswers
    induction lines with
    | nil => rfl
    | cons l lines ih =>
      rw [List.map_cons, List.flatten_cons, List.flatMap_append, ih]
      rfl
  have hserved := (hp.serveAll? (lines.map request)).answer
  rw [hanswers] at hserved
  obtain ⟨⟨answers, q⟩, hrun, rfl⟩ := Option.map_eq_some_iff.1 hserved
  rw [Parser.load?, hrun, Option.map_some, Store.ofList]
  dsimp only
  rw [Store.foldl_addAll, hmodifiers]

theorem effect?_modifier (l : ConversionLine) :
    (l.modifier : Modifier ν).effect? .empty = some (l.fraction * Scalar.one) :=
  rfl

/-- Under the stat of a movement there are the fractions of the lines about it. -/
theorem effects_load (lines : List ConversionLine) (kind : StepKind)
    (source target : DamageType) :
    ((Store.ofList (lines.map modifier)).matching .base (kind.stat source target) .empty).map
      (·.2) = (fractions kind source target lines : List ν).map (· * Scalar.one) := by
  rw [Store.matching, Store.on_ofList, fractions]
  induction lines with
  | nil => rfl
  | cons l lines ih =>
    by_cases hl : Names kind source target l
    · have hstat : (l.modifier : Modifier ν).stat = kind.stat source target :=
        StepKind.stat_inj.2 hl
      rw [List.map_cons, List.filter_cons_of_pos (by simp [hstat]),
        List.filter_cons_of_pos (by rfl),
        List.filterMap_cons_some (by rw [l.effect?_modifier]; rfl), List.map_cons, ih,
        List.filter_cons_of_pos (by simpa using hl), List.map_cons, List.map_cons]
    · have hstat : (l.modifier : Modifier ν).stat ≠ kind.stat source target :=
        fun h => hl (StepKind.stat_inj.1 h)
      rw [List.map_cons, List.filter_cons_of_neg (by simpa using hstat),
        List.filter_cons_of_neg (by simpa using hl), ih]

/-- Where the types can convert, lines about others do not matter. -/
theorem fractions_filter_converts {source target : DamageType} (h : source.converts target = true)
    (kind : StepKind) (lines : List ConversionLine) :
    (fractions kind source target (lines.filter fun l => l.source.converts l.target) : List ν) =
      fractions kind source target lines := by
  rw [fractions, fractions, List.filter_filter]
  refine congrArg _ (List.filter_congr fun l _ => ?_)
  rw [Bool.and_eq_left_iff_imp, decide_eq_true_eq]
  rintro ⟨-, rfl, rfl⟩
  exact h

theorem fraction_rat (l : ConversionLine) : (l.fraction : Rat) = l.number.value / 100 := by
  have hhundredth : (ParserTables.hundredth : Rat) = 1 / 100 := by decide +kernel
  rw [fraction, hhundredth, mul_one_div]

/-- A line in other letters and with other spaces. -/
example : ∃ l : ConversionLine,
    l.text = "  25.0% of PHYSICAL damage is \t Converted to Fire Damage" ∧
      (l.fraction : Rat) = 1 / 4 :=
  ⟨{ shape := .convert true
     number :=
      { sign := []
        whole := "25".toList
        fraction := "0".toList
        sign_mem := by decide
        whole_ne_nil := by decide
        digits := List.all_eq_true.1 (by decide) }
     source := .physical
     target := .fire
     source_mem := by decide
     target_mem := by decide
     text := "  25.0% of PHYSICAL damage is \t Converted to Fire Damage"
     written := by decide +kernel }, rfl, by decide +kernel⟩

end ConversionLine

namespace ConversionTable

open ConversionLine

/-- The table that a parser makes of lines. -/
def ofLines? (p : Parser ν) (lines : List ConversionLine) : Option (ConversionTable ν) :=
  (p.load? (lines.map request)).map fun store => ofStore store .empty

theorem ofLines?_eq {g : Grammar ν} (hg : Grammar.ofTables? NamedPattern.compile .builtin = .ok g)
    {p : Parser ν} (hp : p.Faithful g) (lines : List ConversionLine) :
    ofLines? p lines = some (ofStore (.ofList (lines.map modifier)) .empty) := by
  rw [ofLines?, load?_eq hg hp, Option.map_some]

/-- An entry of the table of lines is the sum of the fractions of its lines. -/
theorem get_ofStore_modifiers (lines : List ConversionLine) (kind : StepKind)
    (source target : DamageType) :
    ((ofStore (.ofList (lines.map modifier)) .empty : ConversionTable ν).matrix kind).get
        source target =
      if source.converts target then
        Scalar.zero + Scalar.sum ((fractions kind source target lines).map (· * Scalar.one))
      else
        Scalar.zero := by
  rw [get_matrix_ofStore, Store.sum, effects_load]

theorem ofStore_modifiers_filter_converts (lines : List ConversionLine) :
    (ofStore (.ofList ((lines.filter fun l => l.source.converts l.target).map modifier)) .empty :
      ConversionTable ν) = ofStore (.ofList (lines.map modifier)) .empty := by
  refine ofStore_congr fun kind source target h => ?_
  rw [Store.sum, Store.sum, effects_load, effects_load, fractions_filter_converts h]

/-- A parser for the built-in tables answers every request, and is faithful after any. -/
theorem exists_parser_builtin (ν : Type) [Scalar ν] : ∃ (g : Grammar ν) (p : Parser ν),
    Grammar.ofTables? NamedPattern.compile .builtin = .ok g ∧
      Parser.ofTables? NamedPattern.compile .builtin = .ok p ∧
        ∀ earlier, ∃ answers q, p.serveAll? earlier = some (answers, q) ∧ q.Faithful g := by
  obtain ⟨g, hg⟩ := ParserTables.exists_grammar_builtin (ν := ν)
  have hphrases : ¬ ∃ phrase ∈ g.flags.phrases, phrase.text = "" := by
    rw [Grammar.exists_empty_flag_iff hg]
    rintro ⟨row, hrow, hempty⟩
    exact ParserTables.builtinFlags_ne_empty row hrow hempty
  refine ⟨g, .ofGrammar g, hg, by rw [Parser.ofTables?, hg]; rfl, fun earlier => ?_⟩
  have hfaithful := Parser.faithful_ofGrammar g
  obtain ⟨⟨answers, q⟩, hrun⟩ :=
    Option.ne_none_iff_exists'.1 (hfaithful.serveAll?_ne_none hphrases earlier)
  exact ⟨answers, q, hrun, (hfaithful.serveAll? earlier).after _ hrun⟩

/-- With the built-in tables, a parser reads conversion lines into the table, whatever it was asked
before: an entry is the sum of the fractions of the lines about its movement, in their order, and
zero for a pair that cannot convert. Lines about such pairs change nothing. Over the rationals,
where nothing is rounded, a fraction is a hundredth of the number that the line names. -/
theorem ofStore_lines :
    (∀ (ν : Type) [Scalar ν], ∃ p : Parser ν,
      Parser.ofTables? NamedPattern.compile .builtin = .ok p ∧
      ∀ (earlier : List Parser.Request) (lines : List ConversionLine),
        ∃ answers q table, p.serveAll? earlier = some (answers, q) ∧
          ofLines? q lines = some table ∧
          (∀ kind source target, (table.matrix kind).get source target =
            if source.converts target then
              Scalar.zero +
                Scalar.sum ((fractions kind source target lines : List ν).map (· * Scalar.one))
            else
              Scalar.zero) ∧
          ofLines? q (lines.filter fun l => l.source.converts l.target) = some table) ∧
    ∃ p : Parser Rat, Parser.ofTables? NamedPattern.compile .builtin = .ok p ∧
      ∀ (earlier : List Parser.Request) (lines : List ConversionLine),
        ∃ answers q table, p.serveAll? earlier = some (answers, q) ∧
          ofLines? q lines = some table ∧
          ∀ kind source target, (table.matrix kind).get source target =
            if source.converts target then
              ((lines.filter (Names kind source target ·)).map fun l =>
                (l.number.value : Rat) / 100).sum
            else
              0 := by
  constructor
  · intro ν _
    obtain ⟨g, p, hg, hp, hserved⟩ := exists_parser_builtin ν
    refine ⟨p, hp, fun earlier lines => ?_⟩
    obtain ⟨answers, q, hrun, hq⟩ := hserved earlier
    exact ⟨answers, q, _, hrun, ofLines?_eq hg hq lines, get_ofStore_modifiers lines, by
      rw [ofLines?_eq hg hq, ofStore_modifiers_filter_converts]⟩
  · obtain ⟨g, p, hg, hp, hserved⟩ := exists_parser_builtin Rat
    refine ⟨p, hp, fun earlier lines => ?_⟩
    obtain ⟨answers, q, hrun, hq⟩ := hserved earlier
    refine ⟨answers, q, _, hrun, ofLines?_eq hg hq lines, fun kind source target => ?_⟩
    have hfractions : (fractions kind source target lines : List Rat).map (· * Scalar.one) =
        (lines.filter (Names kind source target ·)).map fun l => (l.number.value : Rat) / 100 := by
      rw [fractions, List.map_map]
      exact List.map_congr_left fun l _ => (mul_one _).trans l.fraction_rat
    rw [get_ofStore_modifiers, hfractions, Scalar.sum_rat, Scalar.zero_rat, zero_add]

end ConversionTable

end Loadout
