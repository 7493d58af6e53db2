import Loadout.Damage.Table
import Loadout.Environment.Changes
import Loadout.Layer.Equipment
import Loadout.Layer.Passives
import Loadout.Layer.Settings
import Loadout.Layer.Skills
import Loadout.Resolution.Resolver

/-!
# Environments

An environment is what a build comes to: the store of each layer, the player's
store composed from them, the enemy's store, the core attributes and the resolved
settings. It can be made from scratch or from an earlier environment and a record of
what changed. A layer that did not change is taken over as it is and keeps the version
in which it was built, so a layer was rebuilt exactly when it carries the version of its
environment.

The player's store holds the passives, the items of the active weapon set in order of
slot, the skills and the settings.

## Main definitions

* `GameData`: the grammar of lines and the passive tree
* `BuiltStore`: a store and the version in which it was built
* `Environment`: what a build comes to
* `GameData.full`: an environment from scratch
* `GameData.rebuild`, `GameData.setup`: an environment from an earlier one and what changed
* `GameData.equip`, `GameData.reallocate`, `GameData.socket`: single edits
-/

namespace Loadout

/-- What the game defines: the grammar of modifier lines and the passive tree. -/
structure GameData (ν : Type) where
  grammar : Grammar ν
  tree : Tree ν

/-- A store and the version in which it was built. -/
structure BuiltStore (ν : Type) where
  store : Store ν
  since : Nat

instance {ν : Type} : Inhabited (BuiltStore ν) := ⟨⟨.empty, 0⟩⟩

/-- The stores that an environment is assembled from. -/
structure Layers (ν : Type) where
  /-- The tree, the class and the jewels. -/
  passives : BuiltStore ν
  /-- The item in each slot of both weapon sets. -/
  items : Std.ExtTreeMap Slot (BuiltStore ν)
  skills : BuiltStore ν
  settings : BuiltStore ν
  enemy : BuiltStore ν

/-- What a build comes to. -/
structure Environment (ν : Type) where
  version : Nat
  /-- All modifiers that apply to the player. -/
  player : BuiltStore ν
  layers : Layers ν
  attributes : Attributes ν
  build : Build ν
  settings : ResolvedSettings ν
  /-- What had changed when the environment was made. -/
  changes : Changes

namespace Environment

variable {ν : Type}

/-- The situation that the settings describe. -/
def context (e : Environment ν) : Context ν :=
  e.settings.apply .empty

/-- A resolver for the player's stats. -/
def resolver (e : Environment ν) : Resolver ν :=
  .ofStore e.player.store e.context

/-- The player's damage conversion. -/
def conversion [Scalar ν] (e : Environment ν) : ConversionTable ν :=
  .ofStore e.player.store e.context

end Environment

namespace Layers

variable {ν : Type}

/-- The stores that make up the player's, in order. -/
def playerParts (l : Layers ν) (active : WeaponSet) : List (Store ν) :=
  l.passives.store ::
    ((l.items.toList.filter fun entry => entry.1.set == active).map fun entry => entry.2.store) ++
    [l.skills.store, l.settings.store]

/-- The layers assembled into the environment of a build. -/
def assemble [Scalar ν] (l : Layers ν) (build : Build ν) (settings : ResolvedSettings ν)
    (version : Nat) (changes : Changes) : Environment ν :=
  let player : Store ν := .compose (l.playerParts build.activeSet)
  let resolver : Resolver ν := .ofStore player (settings.apply .empty)
  let (strength, resolver) := resolver.value "Strength"
  let (dexterity, resolver) := resolver.value "Dexterity"
  let (intelligence, _) := resolver.value "Intelligence"
  { version
    player := ⟨player, version⟩
    layers := l
    attributes := ⟨strength, dexterity, intelligence⟩
    build
    settings
    changes }

end Layers

/-- The store of the enemy, which needs no game data. -/
def BuiltStore.enemy {ν : Type} [Scalar ν] (s : ResolvedSettings ν) (version : Nat) :
    BuiltStore ν :=
  ⟨.ofList (Layer.enemy s.enemy), version⟩

namespace GameData

variable {ν : Type} [Scalar ν] (data : GameData ν)

/-! ### Single layers -/

/-- The store of the passive layer. -/
def passives (build : Build ν) (version : Nat) : BuiltStore ν :=
  ⟨.ofList (Layer.passives data.grammar data.tree build), version⟩

/-- The store of an item. -/
def item (slot : Slot) (worn : Item) (version : Nat) : BuiltStore ν :=
  ⟨.ofList (Layer.item data.grammar slot worn), version⟩

/-- The stores of all items. -/
def items (build : Build ν) (version : Nat) : Std.ExtTreeMap Slot (BuiltStore ν) :=
  build.items.map fun slot worn => data.item slot worn version

/-- The store of the skills. -/
def skills (build : Build ν) (version : Nat) : BuiltStore ν :=
  ⟨.ofList (Layer.skills data.grammar build.skills), version⟩

/-- The store of the player's side of the settings. -/
def settings (s : ResolvedSettings ν) (version : Nat) : BuiltStore ν :=
  ⟨.ofList (Layer.settings data.grammar s), version⟩

/-- The stores of all items, that of one slot built anew or dropped. -/
def refreshSlot (build : Build ν) (version : Nat) (stores : Std.ExtTreeMap Slot (BuiltStore ν))
    (slot : Slot) : Std.ExtTreeMap Slot (BuiltStore ν) :=
  match build.item? slot with
  | some worn => stores.insert slot (data.item slot worn version)
  | none => stores.erase slot

/-- The stores of all items, the changed ones built anew or dropped. -/
def refreshItems (build : Build ν) (version : Nat) (stores : Std.ExtTreeMap Slot (BuiltStore ν)) :
    ChangeSet Slot → Std.ExtTreeMap Slot (BuiltStore ν)
  | .nothing => stores
  | .everything => data.items build version
  | .members slots => slots.toList.foldl (data.refreshSlot build version) stores

/-! ### Environments -/

/-- The environment of a build, from scratch. It is the first version, or the one that follows an
earlier environment. -/
def full (build : Build ν) (previous : Option (Environment ν) := none) : Environment ν :=
  let resolved := build.settings.resolve
  let version := match previous with
    | some p => p.version + 1
    | none => 1
  let layers : Layers ν :=
    { passives := data.passives build version
      items := data.items build version
      skills := data.skills build version
      settings := data.settings resolved version
      enemy := .enemy resolved version }
  layers.assemble build resolved version .everything

/-- The environment of a build, with the layers of an earlier one that did not change. Jewels belong
to the passive layer, which is always built as a whole, and the enemy changes with the
settings. When nothing changed the earlier environment stays, build included, under a new
version. -/
def rebuild (build : Build ν) (previous : Environment ν) (changes : Changes) : Environment ν :=
  let version := previous.version + 1
  if changes.isClean then
    { previous with version, changes := .nothing }
  else
    let old := previous.layers
    let resolved := if changes.settings then build.settings.resolve else previous.settings
    let layers : Layers ν :=
      { passives := if changes.passives || !changes.jewels.isClean then
          data.passives build version else old.passives
        items := data.refreshItems build version old.items changes.items
        skills := if changes.skills then data.skills build version else old.skills
        settings := if changes.settings then data.settings resolved version else old.settings
        enemy := if changes.settings then .enemy resolved version else old.enemy }
    layers.assemble build resolved version changes

/-- The environment of a build: from scratch, or from an earlier one and what is known to have
changed, where without such knowledge the builds are compared. -/
def setup (build : Build ν) :
    Option (Environment ν × Option Changes) → Environment ν
  | none => data.full build
  | some (previous, known) =>
    data.rebuild build previous (known.getD (.between previous.build build))

/-! ### Single edits -/

/-- The environment with an item put into a slot, or the slot cleared. -/
def equip (previous : Environment ν) (slot : Slot) (worn : Option Item) : Environment ν :=
  let build := previous.build.setItem slot worn
  let version := previous.version + 1
  let layers := { previous.layers with
    items := data.refreshSlot build version previous.layers.items slot }
  layers.assemble build previous.settings version { items := ChangeSet.nothing.insert slot }

/-- The environment with passive nodes removed and then others added. -/
def reallocate (previous : Environment ν) (added removed : List Nat) : Environment ν :=
  let build := previous.build.reallocate added removed
  let version := previous.version + 1
  let layers := { previous.layers with passives := data.passives build version }
  layers.assemble build previous.settings version { passives := true }

/-- The environment with a jewel put into a socket, or the socket cleared. -/
def socket (previous : Environment ν) (id : Nat) (jewel : Option Item) : Environment ν :=
  let build := previous.build.setJewel id jewel
  let version := previous.version + 1
  let layers := { previous.layers with passives := data.passives build version }
  layers.assemble build previous.settings version { jewels := ChangeSet.nothing.insert id }

end GameData

end Loadout
