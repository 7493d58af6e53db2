import Mathlib.Data.List.Forall2
import Loadout.Environment.Basic
import Loadout.Proofs.Environment.Difference

/-!
# Environments that reflect a build

An environment reflects a build when each of its layers is the one that a full build makes of
that build, the player's store is composed of these layers, and the attributes are resolved in
that store. Which versions the layers carry does not matter. The settings of the enemy may
differ from those of the build in numbers that comparison does not tell apart, and the layer
of the enemy is that of the settings which the environment holds.

## Main definitions

* `Modifier.Alike`: modifiers whose numbers comparison does not tell apart
* `Environment.Agrees`: environments with the same content
* `Environment.Reflects`: the layers are those that a build asks for

## Main results

* `Layers.reflects_assemble`: right layers assemble to an environment that reflects the build
* `GameData.reflects_full`: an environment built from scratch reflects its build
* `Environment.Reflects.agrees`: what reflects a build agrees with a full build of it
-/

namespace Loadout

variable {ν : Type}

/-! ### Content of an environment -/

/-- Values that are the same, or numbers that comparison does not tell apart. -/
inductive Value.Alike [BEq ν] : Value ν → Value ν → Prop
  | number {x y : ν} (h : Scalar.Alike x y) : Alike (.number x) (.number y)
  | flag (on : Bool) : Alike (.flag on) (.flag on)
  | entry (text : String) : Alike (.entry text) (.entry text)

/-- Modifiers that differ at most in a number that comparison does not tell apart. -/
structure Modifier.Alike [BEq ν] (m n : Modifier ν) : Prop where
  value : m.value.Alike n.value
  rest : { m with value := n.value } = n

theorem Layer.enemy_alike [Scalar ν] {e e' : EnemySettings ν} (h : e.Alike e') :
    List.Forall₂ Modifier.Alike (Layer.enemy e) (Layer.enemy e') := by
  have number {stat : String} {x y : ν} (hxy : Scalar.Alike x y) :
      Modifier.Alike (.number stat .base x ⟨.enemy, none⟩) (.number stat .base y ⟨.enemy, none⟩) :=
    ⟨.number hxy, rfl⟩
  simp only [Layer.enemy, ← h.level, ← h.isBoss, List.cons_append, List.nil_append]
  refine .cons (number (.refl _)) <| .cons (number h.fireResist) <| .cons (number h.coldResist) <|
    .cons (number h.lightningResist) <| .cons (number h.chaosResist) <|
    .cons (number h.armour) <| .cons (number h.evasion) ?_
  split
  · exact .cons ⟨.flag true, rfl⟩ .nil
  · exact .nil

/-- The player's side of the settings does not depend on the enemy. -/
theorem Layer.settings_eq_of_alike [Scalar ν] {s s' : ResolvedSettings ν} (h : s.Alike s')
    (g : Grammar ν) : Layer.settings g s = Layer.settings g s' := by
  rw [← h.rest]
  rfl

namespace Layers

/-- The stores of the worn items by slot, whenever they were built. -/
def itemStores (l : Layers ν) : Std.ExtTreeMap Slot (Store ν) :=
  l.items.map fun _ built => built.store

theorem playerParts_eq (l : Layers ν) (active : WeaponSet) :
    l.playerParts active = l.passives.store ::
      ((l.itemStores.toList.filter fun entry => entry.1.set == active).map (·.2)) ++
      [l.skills.store, l.settings.store] := by
  simp only [playerParts, itemStores, Std.ExtTreeMap.toList_map, List.filter_map, List.map_map]
  rfl

end Layers

/-- The core attributes as a resolver of a store answers them. -/
def Attributes.inStore [Scalar ν] (player : Store ν) (ctx : Context ν) : Attributes ν :=
  let resolver : Resolver ν := .ofStore player ctx
  let (strength, resolver) := resolver.value "Strength"
  let (dexterity, resolver) := resolver.value "Dexterity"
  let (intelligence, _) := resolver.value "Intelligence"
  ⟨strength, dexterity, intelligence⟩

theorem Layers.assemble_eq [Scalar ν] (l : Layers ν) (build : Build ν)
    (settings : ResolvedSettings ν) (version : Nat) (changes : Changes) :
    l.assemble build settings version changes =
      { version
        player := ⟨.compose (l.playerParts build.activeSet), version⟩
        layers := l
        attributes := .inStore (.compose (l.playerParts build.activeSet)) (settings.apply .empty)
        build
        settings
        changes } := by
  simp only [assemble, Attributes.inStore]

namespace Environment

/-- Two environments have the same content: every store, the attributes and the resolved
settings, with the numbers of the enemy as far as comparison tells them apart. -/
structure Agrees [Scalar ν] (e e' : Environment ν) : Prop where
  passives : e.layers.passives.store = e'.layers.passives.store
  items : e.layers.itemStores = e'.layers.itemStores
  skills : e.layers.skills.store = e'.layers.skills.store
  settings : e.layers.settings.store = e'.layers.settings.store
  enemy : List.Forall₂ Modifier.Alike e.layers.enemy.store.toList e'.layers.enemy.store.toList
  player : e.player.store = e'.player.store
  attributes : e.attributes = e'.attributes
  resolved : e.settings.Alike e'.settings

end Environment

/-! ### Reflecting a build -/

variable [Scalar ν] (data : GameData ν)

/-- The layers that a build asks for, the enemy's by the settings that were resolved for it. -/
structure Layers.Reflects (l : Layers ν) (resolved : ResolvedSettings ν) (b : Build ν) :
    Prop where
  passives : l.passives.store = .ofList (Layer.passives data.grammar data.tree b)
  items : l.itemStores = b.items.map fun slot worn => .ofList (Layer.item data.grammar slot worn)
  skills : l.skills.store = .ofList (Layer.skills data.grammar b.skills)
  settings : l.settings.store = .ofList (Layer.settings data.grammar resolved)
  enemy : l.enemy.store = .ofList (Layer.enemy resolved.enemy)
  resolved : resolved.Alike b.settings.resolve

/-- The layers are those that a build asks for, and the player's store and the attributes come
from them. -/
structure Environment.Reflects (e : Environment ν) (b : Build ν) : Prop where
  layers : e.layers.Reflects data e.settings b
  player : e.player.store = .compose (e.layers.playerParts b.activeSet)
  attributes : e.attributes = .inStore e.player.store e.context

variable {data}

/-- Right layers assemble to an environment that reflects the build. -/
theorem Layers.reflects_assemble {l : Layers ν} {resolved : ResolvedSettings ν} {b : Build ν}
    (h : l.Reflects data resolved b) (version : Nat) (changes : Changes) :
    (l.assemble b resolved version changes).Reflects data b := by
  rw [Layers.assemble_eq]
  refine ⟨h, rfl, ?_⟩
  simp only [Environment.context]

theorem GameData.itemStores_items (b : Build ν) (version : Nat) :
    ((data.items b version).map fun _ built => built.store) =
      b.items.map fun slot worn => .ofList (Layer.item data.grammar slot worn) := by
  refine Std.ExtTreeMap.ext_getElem? fun slot => ?_
  simp only [GameData.items, Std.ExtTreeMap.getElem?_map, Option.map_map]
  rfl

/-- An environment built from scratch reflects its build. -/
theorem GameData.reflects_full (b : Build ν) (previous : Option (Environment ν)) :
    (data.full b previous).Reflects data b := by
  have hlayers (version : Nat) : Layers.Reflects data
      { passives := data.passives b version
        items := data.items b version
        skills := data.skills b version
        settings := data.settings b.settings.resolve version
        enemy := .enemy b.settings.resolve version } b.settings.resolve b :=
    ⟨rfl, itemStores_items b version, rfl, rfl, rfl, .refl _⟩
  exact Layers.reflects_assemble (hlayers _) _ _

theorem GameData.settings_full (b : Build ν) (previous : Option (Environment ν)) :
    (data.full b previous).settings = b.settings.resolve := by
  simp only [full, Layers.assemble_eq]

/-- What reflects a build agrees with a full build of it. -/
theorem Environment.Reflects.agrees {e : Environment ν} {b : Build ν}
    (h : e.Reflects data b) : e.Agrees (data.full b) := by
  have hfull : (data.full b).Reflects data b := GameData.reflects_full b none
  have hresolved : e.settings.Alike (data.full b).settings := by
    rw [GameData.settings_full]
    exact h.layers.resolved
  have hpassives := h.layers.passives.trans hfull.layers.passives.symm
  have hitems := h.layers.items.trans hfull.layers.items.symm
  have hskills := h.layers.skills.trans hfull.layers.skills.symm
  have hsettings : e.layers.settings.store = (data.full b).layers.settings.store := by
    rw [h.layers.settings, hfull.layers.settings, Layer.settings_eq_of_alike hresolved]
  have hplayer : e.player.store = (data.full b).player.store := by
    rw [h.player, hfull.player, Layers.playerParts_eq, Layers.playerParts_eq, hpassives, hitems,
      hskills, hsettings]
  refine ⟨hpassives, hitems, hskills, hsettings, ?_, hplayer, ?_, hresolved⟩
  · rw [h.layers.enemy, hfull.layers.enemy, Store.toList_ofList, Store.toList_ofList]
    exact Layer.enemy_alike hresolved.enemy
  · rw [h.attributes, hfull.attributes, hplayer, context, context, hresolved.apply_eq]

end Loadout
