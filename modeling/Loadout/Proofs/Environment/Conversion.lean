import Mathlib.Tactic.Ring
import Loadout.Proofs.Damage.Normal
import Loadout.Proofs.Environment.Attributes
import Loadout.Proofs.Resolution.Declared
import Loadout.Proofs.Resolution.Independent

/-!
# The conversion table of an environment

An environment reads its conversions and gains straight from the player's store, in the situation
that its settings describe, and its resolver resolves the same stats. The settings say nothing about
the values of stats, so a modifier that is subject to a stat counts in the table as if that stat
were zero, while the resolver resolves the stat first. Where no override is on a conversion and it
does not depend on itself, this is all in which the two differ: no attribute feeds a conversion,
and what stands on the stack while it is resolved has no bearing on the stats that it reads.

Numbers are rationals here, so nothing is rounded.

## Main definitions

* `ConversionTable.HasEntry`: the value of a table under the stat of a conversion or of a gain
* `Modifier.share`: what a modifier adds to the base of its stat
* `Environment.kindled`: the environment of a build with a conversion that is subject to strength

## Main results

* `ConversionTable.HasEntry.eq_sum`: an entry is the sum of what the bases on its stat add
* `Environment.base_resolve_eq_sum`: so is the resolver's base, in the situation that it computes in
* `Environment.base_resolve_conversion`: how the resolver's base differs from the table's entry
* `GameData.kindled_differs`: they do differ
-/

namespace Loadout

variable {ν : Type}

/-- Two sums differ by what the parts do that are not alike. -/
private theorem sum_map_eq_add_sum_filter {α : Type} {p : α → Bool} {f f' : α → Rat}
    (h : ∀ a, ¬ p a = true → f a = f' a) (as : List α) :
    (as.map f).sum = (as.map f').sum + ((as.filter p).map fun a => f a - f' a).sum := by
  induction as with
  | nil => exact (add_zero _).symm
  | cons a as ih =>
    rw [List.map_cons, List.map_cons, List.sum_cons, List.sum_cons, ih]
    by_cases hp : p a = true
    · rw [List.filter_cons_of_pos hp, List.map_cons, List.sum_cons]
      ring
    · rw [List.filter_cons_of_neg hp, h a hp]
      ring

/-! ### Entries of a table -/

namespace ConversionMatrix

theorem get_ofEntries_pairs {source target : DamageType} (h : source.converts target = true)
    (f : DamageType → DamageType → Rat) :
    (ofEntries (ConversionTable.pairs.map fun pair =>
      (pair.1, pair.2, f pair.1 pair.2))).get source target = f source target := by
  have hpair : (ConversionTable.pairs.filter fun pair => pair.1 == source && pair.2 == target &&
      pair.1.converts pair.2) = [(source, target)] := by
    revert h
    cases source <;> cases target <;> decide
  rw [get_ofEntries, entriesAt, convertible, List.filter_filter, List.filter_map, List.map_map]
  simp only [Function.comp_def, hpair, List.map_cons, List.map_nil, List.sum_cons, List.sum_nil,
    add_zero]

end ConversionMatrix

/-- A table has a value under a stat: the fraction of a conversion, or of a gain, between two types
that can convert. -/
inductive ConversionTable.HasEntry (t : ConversionTable ν) : String → ν → Prop
  | convert {source target : DamageType} (h : source.converts target = true) :
      t.HasEntry (convertStat source target) (t.conversions.get source target)
  | gain {source target : DamageType} (h : source.converts target = true) :
      t.HasEntry (gainStat source target) (t.gains.get source target)

theorem ConversionTable.HasEntry.feeding_eq_nil [Scalar ν] {t : ConversionTable ν} {stat : String}
    {x : ν} (h : t.HasEntry stat x) :
    (AttributeRule.feeding stat : List (AttributeRule ν)) = [] := by
  have hnone (stat : String) (hstat : stat ∉ ["Life", "PhysicalDamage", "Accuracy", "Evasion",
      "Mana", "EnergyShield"]) : (AttributeRule.feeding stat : List (AttributeRule ν)) = [] := by
    refine List.filter_eq_nil_iff.mpr fun rule hrule htarget => hstat ?_
    have hmem := List.mem_map_of_mem (f := (·.target)) hrule
    rwa [beq_iff_eq.mp htarget] at hmem
  cases h with
  | @convert source target _ => exact hnone _ (by cases source <;> cases target <;> decide)
  | @gain source target _ => exact hnone _ (by cases source <;> cases target <;> decide)

/-- What a modifier adds to the base of its stat in a situation: nothing, unless it applies. -/
def Modifier.share (m : Modifier Rat) (ctx : Context Rat) : Rat :=
  (m.effect? ctx).getD 0

/-- The bases on a stat. -/
def Store.basesOn (s : Store ν) (stat : String) : List (Modifier ν) :=
  (s.on stat).filter fun m => m.kind == .base

theorem Store.sum_base_eq (s : Store Rat) (stat : String) (ctx : Context Rat) :
    s.sum .base stat ctx = ((s.basesOn stat).map (·.share ctx)).sum := by
  have hlist (ms : List (Modifier Rat)) :
      ((ms.filterMap fun m => (m.effect? ctx).map (m, ·)).map (·.2)).sum =
        (ms.map (·.share ctx)).sum := by
    induction ms with
    | nil => rfl
    | cons m ms ih =>
      rw [List.map_cons, List.sum_cons, ← ih, Modifier.share]
      cases heffect : m.effect? ctx with
      | none => rw [List.filterMap_cons_none (by rw [heffect]; rfl), Option.getD_none, zero_add]
      | some x =>
        rw [List.filterMap_cons_some (by rw [heffect]; rfl), List.map_cons, List.sum_cons,
          Option.getD_some]
  rw [sum, Scalar.sum_rat]
  exact hlist (s.basesOn stat)

/-- An entry of a store's table is the sum of what the bases on its stat add. -/
theorem ConversionTable.HasEntry.eq_sum {store : Store Rat} {ctx : Context Rat} {stat : String}
    {x : Rat} (h : (ofStore store ctx).HasEntry stat x) :
    x = ((store.basesOn stat).map (·.share ctx)).sum := by
  rw [← Store.sum_base_eq]
  cases h with
  | convert h =>
    exact ConversionMatrix.get_ofEntries_pairs h fun source target =>
      store.sum .base (convertStat source target) ctx
  | gain h =>
    exact ConversionMatrix.get_ofEntries_pairs h fun source target =>
      store.sum .base (gainStat source target) ctx

/-! ### The situation of the settings -/

theorem ResolvedSettings.apply_eq (s : ResolvedSettings ν) (ctx : Context ν) :
    s.apply ctx = { ctx with conditions := (s.apply ctx).conditions } := by
  have hfold (decisions : List (String × Bool)) (ctx : Context ν) :
      decisions.foldl (fun ctx decision => ctx.setCondition decision.1 decision.2) ctx =
        { ctx with conditions := (decisions.foldl (fun ctx decision =>
            ctx.setCondition decision.1 decision.2) ctx).conditions } := by
    induction decisions generalizing ctx with
    | nil => rfl
    | cons decision decisions ih =>
      rw [List.foldl_cons]
      exact ih _
  exact hfold s.decisions ctx

namespace Environment

/-- The settings of an environment say nothing about the value of any stat. -/
theorem stats_context (e : Environment ν) : e.context.stats = ∅ := by
  rw [context, ResolvedSettings.apply_eq]
  rfl

theorem ground_resolver (e : Environment ν) : e.resolver.ground = e.ground := by
  rw [Resolver.ground, resolver, Resolver.ofStore, ground]

variable {e : Environment Rat} {stat : String}

/-- A modifier that is not subject to a stat counts alike for the table and for the resolver. -/
theorem share_informedFor {m : Modifier Rat} (h : m.condition.bind Condition.stat? = none) :
    m.share (e.resolver.informedFor stat) = m.share e.context := by
  have hrest : { e.resolver.informedFor stat with stats := e.context.stats } =
      { e.context with stats := e.context.stats } :=
    e.resolver.informed_rest (e.resolver.ground.defaultKey stat) _
  have heffect : m.effect? (e.resolver.informedFor stat) = m.effect? e.context :=
    Modifier.effect?_congr hrest fun read hread =>
      absurd (h.symm.trans hread) (Option.some_ne_none read).symm
  rw [Modifier.share, heffect, Modifier.share]

/-- Where nothing overrides or feeds a stat and it does not depend on itself, the resolver sums what
the bases on it add once the stats that conditions read are known. -/
theorem base_resolve_eq_sum (hcycle : ¬ Relation.TransGen e.ground.Reads stat stat)
    (hover : ∀ m ∈ e.player.store.on stat, m.kind ≠ .override)
    (hfeeding : (AttributeRule.feeding stat : List (AttributeRule Rat)) = []) :
    (e.resolver.resolve stat).1.base =
      ((e.player.store.basesOn stat).map (·.share (e.resolver.informedFor stat))).sum := by
  have hrest : e.resolver.AtRest := Resolver.atRest_ofStore e.player.store e.context
  have hkept : e.resolver.cached? (e.resolver.ground.defaultKey stat) = none :=
    Std.HashMap.getElem?_empty
  have hrules : e.resolver.ground.rules (e.resolver.ground.defaultKey stat) = [] := by
    rw [Ground.rules, Ground.defaultKey, hfeeding, List.filter_nil]
  rw [← ground_resolver] at hcycle
  have hstore : e.resolver.store = e.player.store := rfl
  rw [hrest.resolve_eq_combined hkept hcycle hover hrules,
    Ground.base_combined (List.forall_mem_nil _), hstore, ← Store.sum_base_eq]
  exact add_zero _

/-- The resolver's base of a conversion is the entry of the table and what it makes that the stats
that conditions read are not known there: the table counts each of them as zero. -/
theorem base_resolve_conversion {x : Rat} (hentry : e.conversion.HasEntry stat x)
    (hover : ∀ m ∈ e.player.store.on stat, m.kind ≠ .override)
    (hcycle : ¬ Relation.TransGen e.ground.Reads stat stat) :
    let subject := (e.player.store.basesOn stat).filter fun m =>
      (m.condition.bind Condition.stat?).isSome
    e.context.stats = ∅ ∧
      x = ((e.player.store.basesOn stat).map (·.share e.context)).sum ∧
      (e.resolver.resolve stat).1.base =
        x + (subject.map fun m =>
          m.share (e.resolver.informedFor stat) - m.share e.context).sum := by
  intro subject
  have hsum : x = ((e.player.store.basesOn stat).map (·.share e.context)).sum := hentry.eq_sum
  refine ⟨e.stats_context, hsum, ?_⟩
  rw [base_resolve_eq_sum hcycle hover hentry.feeding_eq_nil, hsum]
  refine sum_map_eq_add_sum_filter (fun m hm => ?_) _
  exact share_informedFor (Option.not_isSome_iff_eq_none.mp hm)

end Environment

/-! ### A line under which they differ -/

/-- Strength is two, and half of the physical damage converts to fire while strength is at least
one. -/
def KnownRow.kindled : KnownRow Rat where
  text := "kindled"
  effects := [
    { stat := "Strength", kind := .base, value := .number 2, scale := 1 },
    { stat := "PhysicalDamageConvertToFire", kind := .base, value := .number (1 / 2), scale := 1,
      condition := some (.threshold "Strength" 1 true) }]

/-- A game with the line and nothing else. -/
def GameData.kindled : GameData Rat where
  grammar := .ofLine .kindled
  tree := {}

/-- The environment of a build with the line and nothing else. -/
def Environment.kindled : Environment Rat :=
  GameData.kindled.full (.ofLine "kindled")

/-- What the resolver of the environment resolves against. -/
def Ground.kindled : Ground Rat where
  store := .ofList (KnownRow.kindled.effects.map (·.modifier Layer.settingsOrigin))
  defaults := (Settings.standard : Settings Rat).resolve.apply .empty

private theorem KnownRow.plain_kindled : KnownRow.kindled.Plain where
  text := by decide
  normal := by decide +kernel
  ranges := by decide +kernel
  flags := by decide +kernel
  isLocal := rfl
  displayOnly := rfl

namespace Environment

private theorem store_kindled : kindled.player.store = Ground.kindled.store :=
  KnownRow.plain_kindled.store_full

private theorem context_kindled : kindled.context = Ground.kindled.defaults :=
  Build.context_ofLine _ "kindled"

private theorem ground_kindled : kindled.ground = .kindled := by
  rw [ground, store_kindled, context_kindled]

private theorem resolver_kindled :
    kindled.resolver = .ofStore Ground.kindled.store Ground.kindled.defaults := by
  rw [resolver, store_kindled, context_kindled]

private theorem acyclic_kindled (stat : String) : Ground.kindled.Acyclic stat :=
  Ground.acyclic_ofList (fun stat => if stat = "PhysicalDamageConvertToFire" then 2 else
    if stat ∈ coreAttributes then 0 else 1) (by decide) (by decide) stat

private theorem not_override_kindled :
    ∀ m ∈ kindled.player.store.on (convertStat .physical .fire), m.kind ≠ .override := by
  rw [store_kindled]
  decide +kernel

private theorem not_reads_kindled :
    ¬ Relation.TransGen kindled.ground.Reads (convertStat .physical .fire)
      (convertStat .physical .fire) := by
  rw [ground_kindled]
  exact acyclic_kindled _ _ .refl

/-- The resolver's base and the table's entry in the example. -/
theorem base_resolve_conversion_kindled :
    let stat := convertStat .physical .fire
    let x := kindled.conversion.conversions.get .physical .fire
    let subject := (kindled.player.store.basesOn stat).filter fun m =>
      (m.condition.bind Condition.stat?).isSome
    kindled.conversion.HasEntry stat x ∧
      (∀ m ∈ kindled.player.store.on stat, m.kind ≠ .override) ∧
      ¬ Relation.TransGen kindled.ground.Reads stat stat ∧
      kindled.context.stats = ∅ ∧
      x = ((kindled.player.store.basesOn stat).map (·.share kindled.context)).sum ∧
      (kindled.resolver.resolve stat).1.base = x + (subject.map fun m =>
        m.share (kindled.resolver.informedFor stat) - m.share kindled.context).sum := by
  intro stat x subject
  have hentry : kindled.conversion.HasEntry stat x := .convert rfl
  exact ⟨hentry, not_override_kindled, not_reads_kindled,
    base_resolve_conversion hentry not_override_kindled not_reads_kindled⟩

end Environment

/-- The tables have a line under which half of the physical damage converts to fire for the
resolver, because strength is two, while the table of the same environment converts nothing. -/
theorem GameData.kindled_differs :
    let stat := convertStat .physical .fire
    Grammar.ofTables? NamedPattern.compile { known := [.kindled] } = .ok kindled.grammar ∧
      Environment.kindled.Produced ∧
      (∀ m ∈ Environment.kindled.player.store.on stat, m.kind ≠ .override) ∧
      ¬ Relation.TransGen Environment.kindled.ground.Reads stat stat ∧
      Environment.kindled.conversion.conversions.get .physical .fire = 0 ∧
      (Environment.kindled.resolver.resolve stat).1.base = 1 / 2 := by
  intro stat
  have hproduced : Environment.kindled.Produced := .full kindled (.ofLine "kindled") none
  have hentry : Environment.kindled.conversion.HasEntry stat
      (Environment.kindled.conversion.conversions.get .physical .fire) := .convert rfl
  have hcycle := Environment.not_reads_kindled
  have hover := Environment.not_override_kindled
  refine ⟨KnownRow.plain_kindled.ofTables? _, hproduced, hover, hcycle, ?_, ?_⟩
  · rw [hentry.eq_sum, Environment.store_kindled, Environment.context_kindled]
    decide +kernel
  · rw [Environment.base_resolve_eq_sum hcycle hover hentry.feeding_eq_nil,
      Environment.resolver_kindled, Environment.store_kindled]
    set r : Resolver Rat := .ofStore Ground.kindled.store Ground.kindled.defaults
    have hstrength : (r.resolve "Strength").1.value = 2 := by
      have hrest : r.AtRest := Resolver.atRest_ofStore _ _
      have hkept : r.cached? (r.ground.defaultKey "Strength") = none := Std.HashMap.getElem?_empty
      have hcycle : ¬ Relation.TransGen r.ground.Reads "Strength" "Strength" :=
        Environment.acyclic_kindled _ _ .refl
      have hover : ∀ m ∈ r.store.on "Strength", m.kind ≠ .override := by decide +kernel
      have hrules : r.ground.rules (r.ground.defaultKey "Strength") = [] := rfl
      rw [hrest.resolve_eq_combined hkept hcycle hover hrules]
      decide +kernel
    have hinformed : r.informedFor stat = r.informed (r.ground.defaultKey stat) [2] := by
      have hunknowns : r.ground.unknowns stat = ["Strength"] := by decide +kernel
      rw [Resolver.informedFor, hunknowns]
      simp only [Resolver.resolveAll, List.map_cons, List.map_nil, hstrength]
    rw [hinformed]
    decide +kernel

end Loadout
