import Loadout.Pattern.Reader
import Loadout.Proofs.Environment.KnownLine
import Loadout.Proofs.Environment.Renewal
import Loadout.Proofs.Resolution.Order

/-!
# The attributes that an environment stores

When an environment is assembled one resolver answers strength, dexterity and intelligence in
turn. Rebuilding under a record without marks keeps the three together with the store and the
situation that they were answered in. So whatever operations produced an environment, strength is
what its resolver answers, and dexterity and intelligence are what it answers after the attributes
before them. They are what it answers on its own unless an answer that rests on a zero is kept on
the way, which can only happen where an override is subject to another stat.

## Main definitions

* `Environment.HarmlessAfter`: a stat is answered alike alone and after others
* `GameData.sworn`: a game in which dexterity depends on whether strength was asked for before

## Main results

* `Environment.Produced.coherent`: no operation leaves attributes of another store
* `Environment.Produced.attributes_agree`: the stored attributes and the resolver's answers
* `Ground.steady_of_overrides`: where no override is subject to a stat they always agree
* `GameData.sworn_disagrees`: where one is they can differ
-/

namespace Loadout

variable {ν : Type}

/-- What the resolver of an environment resolves against. -/
def Environment.ground (e : Environment ν) : Ground ν :=
  ⟨e.player.store, e.context⟩

variable [Scalar ν]

/-! ### Attributes and the player's store -/

/-- A rebuild that keeps the attributes keeps the player's store and the settings. -/
theorem GameData.coherent_rebuild {previous : Environment ν} (h : previous.Coherent)
    (data : GameData ν) (b : Build ν) (known : Changes) :
    (data.rebuild b previous known).Coherent := by
  cases hclean : known.isClean with
  | true =>
    rw [rebuild_of_isClean hclean]
    exact h
  | false => exact (renews_rebuild hclean).attributes

/-- Every operation leaves the attributes of the player's store in the situation of the settings. -/
theorem Environment.Produced.coherent {e : Environment ν} (h : e.Produced) : e.Coherent := by
  induction h with
  | full data b previous => exact Layers.coherent_assemble _ _ _ _ _
  | rebuilt _ data b known ih => exact GameData.coherent_rebuild ih data b known
  | equipped _ data slot worn => exact Layers.coherent_assemble _ _ _ _ _
  | reallocated _ data added removed => exact Layers.coherent_assemble _ _ _ _ _
  | socketed _ data id jewel => exact Layers.coherent_assemble _ _ _ _ _

/-! ### Answers after others -/

/-- A stat is asked for alone and after others, and neither resolver then keeps an answer that rests
on a zero elsewhere among the stats that it involves. -/
structure Environment.HarmlessAfter (e : Environment ν) (earlier : List String) (stat : String) :
    Prop where
  after : ((e.resolver.askAll (earlier.map .value)).2.ask (.value stat)).2.Harmless e.ground
    (Resolver.Query.Involves e.ground (.value stat))
  alone : (e.resolver.ask (.value stat)).2.Harmless e.ground
    (Resolver.Query.Involves e.ground (.value stat))

theorem Environment.harmlessAfter_of_steady {e : Environment ν}
    (h : ∀ region, e.ground.Steady region) (earlier : List String) (stat : String) :
    e.HarmlessAfter earlier stat := by
  have hundisturbed : e.ground.Undisturbed (Resolver.Query.Involves e.ground (.value stat)) :=
    (h _).undisturbed (Resolver.Query.closed_involves e.ground (.value stat))
  exact ⟨Resolver.harmless_of_undisturbed hundisturbed _,
    Resolver.harmless_of_undisturbed hundisturbed _⟩

/-- A stat has the value after others that it has alone, unless something harmful is kept. -/
theorem Environment.HarmlessAfter.value_eq {e : Environment ν} {earlier : List String}
    {stat : String} (h : e.HarmlessAfter earlier stat) :
    ((e.resolver.askAll (earlier.map .value)).2.value stat).1 = (e.resolver.value stat).1 := by
  have hstart (region : String → Prop) : e.resolver.Ready e.ground region [] :=
    Resolver.ready_ofStore e.player.store e.context region
  have hanswers := Resolver.ask_askAll_eq_ask hstart (earlier.map .value) (.value stat)
    h.after h.alone
  simp only [Resolver.ask, Resolver.Answer.value.injEq] at hanswers
  exact hanswers

theorem Environment.Produced.attributes_eq_values {e : Environment ν} (h : e.Produced) :
    e.attributes = ⟨(e.resolver.value "Strength").1,
      ((e.resolver.askAll (["Strength"].map .value)).2.value "Dexterity").1,
      ((e.resolver.askAll (["Strength", "Dexterity"].map .value)).2.value "Intelligence").1⟩ := by
  rw [h.coherent]
  simp only [Attributes.inStore, resolver, List.map_cons, List.map_nil, Resolver.askAll,
    Resolver.ask]

/-- Whatever operations produced an environment, the strength that it stores is what its resolver
answers, and so are the dexterity and the intelligence, unless an answer that rests on a zero is
kept in the resolution of the attributes one after the other or in that of one alone. -/
theorem Environment.Produced.attributes_agree {e : Environment ν} (h : e.Produced) :
    e.attributes.strength = (e.resolver.value "Strength").1 ∧
      (e.HarmlessAfter ["Strength"] "Dexterity" →
        e.attributes.dexterity = (e.resolver.value "Dexterity").1) ∧
      (e.HarmlessAfter ["Strength", "Dexterity"] "Intelligence" →
        e.attributes.intelligence = (e.resolver.value "Intelligence").1) := by
  rw [h.attributes_eq_values]
  dsimp only
  exact ⟨rfl, fun hharmless => hharmless.value_eq, fun hharmless => hharmless.value_eq⟩

/-- A ground is steady when no override on it is subject to a stat. -/
theorem Ground.steady_of_overrides {g : Ground ν}
    (h : ∀ m ∈ g.store.toList, m.kind = .override → m.condition.bind Condition.stat? = none)
    (region : String → Prop) : g.Steady region := by
  intro stat _ m hm hkind read hread
  obtain ⟨i, -, hi⟩ := List.mem_filterMap.mp hm
  have hnone := h m (Array.mem_toList_iff.mpr (Array.mem_of_getElem? hi)) hkind
  exact absurd (hnone.symm.trans hread) (Option.some_ne_none read).symm

/-- A witch allocates a keystone, and the environment is set up again under a record without
marks. -/
theorem Environment.Produced.attributes_agree_minimal :
    let witch := GameData.minimal.full (.ofClass "Witch")
    let allocated := GameData.minimal.reallocate witch [7] []
    let e := GameData.minimal.setup witch.build (some (allocated, some .nothing))
    e.Produced ∧ e.HarmlessAfter ["Strength"] "Dexterity" ∧
      e.HarmlessAfter ["Strength", "Dexterity"] "Intelligence" ∧
      e.attributes.strength = (e.resolver.value "Strength").1 ∧
      e.attributes.dexterity = (e.resolver.value "Dexterity").1 ∧
      e.attributes.intelligence = (e.resolver.value "Intelligence").1 := by
  intro witch allocated e
  have hallocated : allocated.Produced := .reallocated (.full _ _ none) _ [7] []
  have hproduced : e.Produced := by
    refine .setup _ _ _ fun entry hentry => ?_
    rw [← Option.some.inj hentry]
    exact hallocated
  have hclean : Changes.nothing.isClean = true := rfl
  have hkinds : e.ground.store.toList.map (·.kind) = [.base, .base, .base, .flag] := by
    simp only [ground, e, allocated, witch, GameData.setup, Option.getD_some,
      GameData.rebuild_of_isClean hclean, GameData.reallocate, GameData.full, Layers.assemble_eq]
    decide +kernel
  have hsteady (region : String → Prop) : e.ground.Steady region := by
    refine Ground.steady_of_overrides (fun m hm hkind => ?_) region
    have hmem := List.mem_map_of_mem (f := (·.kind)) hm
    rw [hkinds, hkind] at hmem
    exact absurd hmem (by decide)
  have hdexterity : e.HarmlessAfter ["Strength"] "Dexterity" := harmlessAfter_of_steady hsteady _ _
  have hintelligence : e.HarmlessAfter ["Strength", "Dexterity"] "Intelligence" :=
    harmlessAfter_of_steady hsteady _ _
  obtain ⟨hstrength, hdexterity', hintelligence'⟩ := attributes_agree hproduced
  exact ⟨hproduced, hdexterity, hintelligence, hstrength, hdexterity' hdexterity,
    hintelligence' hintelligence⟩

/-! ### A line under which they differ -/

/-- Life is overridden unless the guard is up, the guard is up only while life is low, strength,
which feeds life, counts only while the guard is up, and dexterity counts unless life is low. -/
def KnownRow.sworn : KnownRow Rat where
  text := "sworn"
  effects := [
    { stat := "Strength", kind := .base, value := .number 2, scale := 1,
      condition := some (.threshold "Guard" 1 true) },
    { stat := "Guard", kind := .base, value := .number 1, scale := 1,
      condition := some (.threshold "Life" 1 false) },
    { stat := "Life", kind := .override, value := .number 5, scale := 1,
      condition := some (.threshold "Guard" 1 false) },
    { stat := "Dexterity", kind := .base, value := .number 3, scale := 1,
      condition := some (.threshold "Life" 1 true) }]

/-- A game with the line and nothing else. -/
def GameData.sworn : GameData Rat where
  grammar := .ofLine .sworn
  tree := {}

/-- What the resolver of a build with the line resolves against. -/
def Ground.sworn : Ground Rat where
  store := .ofList (KnownRow.sworn.effects.map (·.modifier Layer.settingsOrigin))
  defaults := (Settings.standard : Settings Rat).resolve.apply .empty

private theorem KnownRow.plain_sworn : KnownRow.sworn.Plain where
  text := by decide
  normal := by decide +kernel
  ranges := by decide +kernel
  flags := by decide +kernel
  isLocal := rfl
  displayOnly := rfl

private theorem GameData.ground_sworn : (sworn.full (.ofLine "sworn")).ground = .sworn := by
  have hstore : (sworn.full (.ofLine "sworn")).player.store = Ground.sworn.store :=
    KnownRow.plain_sworn.store_full
  have hcontext : (sworn.full (.ofLine "sworn")).context = Ground.sworn.defaults :=
    Build.context_ofLine _ "sworn"
  rw [Environment.ground, hstore, hcontext]

theorem Ground.guarded_sworn : Ground.sworn.Guarded := by
  constructor <;> exact ⟨by decide +kernel, by decide +kernel⟩

open Resolver in
/-- The tables have a line under which the stored dexterity is nothing, because strength was asked
for before, and a resolver of the same environment answers three. -/
theorem GameData.sworn_disagrees :
    let e := sworn.full (.ofLine "sworn")
    Grammar.ofTables? NamedPattern.compile { known := [.sworn] } = .ok sworn.grammar ∧ e.Produced ∧
      e.attributes.dexterity = 0 ∧ (e.resolver.value "Dexterity").1 = 3 := by
  intro e
  have hproduced : e.Produced := .full sworn (.ofLine "sworn") none
  have hresolver : e.resolver = during .sworn ∅ [] none := by
    rw [← ground_sworn]
    rfl
  have hlow : Ground.sworn.ComesTo "Dexterity" (fun _ => 0) ["Life"] 0 :=
    ⟨by decide +kernel, by decide +kernel⟩
  have hhigh : Ground.sworn.ComesTo "Dexterity" (fun _ => 1) ["Life"] 3 :=
    ⟨by decide +kernel, by decide +kernel⟩
  -- Strength is kept as nothing, so life is low afterwards and dexterity does not count.
  obtain ⟨answer, hanswer, hstrength⟩ := Ground.guarded_sworn.strength 5
  obtain ⟨_, -, hafter⟩ := Gives.keeps (getElem?_insert_empty (by decide) answer)
    List.not_mem_nil hlow
    (Ground.guarded_sworn.life_after 5 hanswer (by simp) (by simp))
  -- Alone it counts, because strength counts inside the resolution of life.
  obtain ⟨_, -, halone⟩ := Gives.keeps Std.HashMap.getElem?_empty List.not_mem_nil hhigh
    (Ground.guarded_sworn.life 4 (by simp) (by simp) (by simp))
  refine ⟨KnownRow.plain_sworn.ofTables? _, hproduced, ?_, ?_⟩
  · rw [hproduced.attributes_eq_values, hresolver]
    simp only [List.map_cons, List.map_nil, askAll, ask,
      Gives.value_eq (g := .sworn) hstrength, Gives.value_eq (g := .sworn) hafter]
  · rw [hresolver, Gives.value_eq (g := .sworn) halone]

end Loadout
