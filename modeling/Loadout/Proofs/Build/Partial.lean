import Loadout.Proofs.Build.Worn
import Loadout.Proofs.Settings.Partial

/-!
# Builds with fields left out

A build that was stored without some of its fields is read with the default for each of these
fields and with everything else as it was. Fields can be missing at any depth: from the build,
from its settings, from a gem of a skill group, from a jewel or an item. Each takes the default of
the structure it belongs to, such as level 20 for a gem that is enabled, even where the build as a
whole would have nothing.

## Main definitions

* `Gem.without`, `SkillGroup.without`, `Build.without`: the defaults for what is left out
* `Build.counts`: the whole numbers in a build, which are read back when they have 32 bits

## Main results

* `Build.ofDocument?_without`: a build is read with the defaults for what is left out
-/

namespace Loadout

open Document

variable {ν : Type}

/-- A text that may be missing is read as it was, as nothing can be left out of it. -/
theorem toOption?_without_text (s : Option String) (o : Omission) :
    ((ofOption text s : Document ν).without o).toOption? toText? = some s := by
  rw [without_ofOption fun _ _ => rfl, toOption?_ofOption toText?_text (by simp)]

namespace Gem

/-- The whole numbers of a gem. -/
def counts (g : Gem) : List Nat :=
  [g.level, g.quality]

/-- The gem with the default for each field that is left out. -/
def without (o : Omission) (g : Gem) : Gem :=
  let standard : Gem := {}
  { name := o.pick "name" standard.name g.name
    level := o.pick "level" standard.level g.level
    quality := o.pick "quality" standard.quality g.quality
    enabled := o.pick "enabled" standard.enabled g.enabled
    stats := o.pick "stats" standard.stats g.stats }

theorem without_nothing (g : Gem) : g.without .nothing = g := rfl

/-- A gem is read with the default for each field that is left out. -/
theorem ofDocument?_without (g : Gem) (h : ∀ n ∈ g.counts, n < Nat.pow 2 32) (o : Omission) :
    ofDocument? ((g.toDocument : Document ν).without o) = some (g.without o) := by
  simp only [counts, List.forall_mem_cons] at h
  rw [ofDocument?, toDocument, fields?_without]
  case hnames => rfl
  case hnodup => decide
  simp [Fields.orElse?_without, List.lookup_cons, Omission.pick_some, linesOfDocument?_without,
    toCount?_ofCount h.1, toCount?_ofCount h.2.1, without]

end Gem

namespace SkillGroup

/-- The whole numbers of the gems of a group. -/
def counts (g : SkillGroup) : List Nat :=
  g.gems.flatMap Gem.counts

/-- The group with the default for each field that is left out, in the group and in its gems. -/
def without (o : Omission) (g : SkillGroup) : SkillGroup :=
  let standard : SkillGroup := {}
  { label := o.pick "label" standard.label g.label
    enabled := o.pick "enabled" standard.enabled g.enabled
    slot := o.pick "slot" standard.slot g.slot
    gems := o.pick "gems" standard.gems ((o.within (.member "gems")).items Gem.without g.gems) }

theorem without_nothing (g : SkillGroup) : g.without .nothing = g := by
  simp [without, Omission.items_nothing Gem.without_nothing]

/-- A skill group is read with the default for each field that is left out, in the group and in
its gems. -/
theorem ofDocument?_without (g : SkillGroup) (h : ∀ n ∈ g.counts, n < Nat.pow 2 32) (o : Omission) :
    ofDocument? ((g.toDocument : Document ν).without o) = some (g.without o) := by
  have hgems (o : Omission) : ((ofList Gem.toDocument g.gems : Document ν).without o).toList?
      Gem.ofDocument? = some (o.items Gem.without g.gems) :=
    toList?_without fun gem hgem o =>
      gem.ofDocument?_without (fun n hn => h n (List.mem_flatMap.2 ⟨gem, hgem, hn⟩)) o
  rw [ofDocument?, toDocument, fields?_without]
  case hnames => rfl
  case hnodup => decide
  simp [Fields.orElse?_without, List.lookup_cons, Omission.pick_some, toOption?_without_text,
    hgems, without]

end SkillGroup

namespace WeaponSet

theorem ofName?_name (set : WeaponSet) : ofName? set.name = some set := by
  cases set <;> decide

end WeaponSet

namespace Build

/-- The whole numbers of a build. -/
def counts (b : Build ν) : List Nat :=
  b.level :: (b.nodes.toList ++ b.masteries.keys ++ b.masteries.toList.map (·.2) ++
    b.jewels.keys ++ b.skills.flatMap SkillGroup.counts ++ b.settings.counts)

variable [Scalar ν]

/-- The build of a document without fields. -/
def standard : Build ν :=
  { settings := .standard }

/-- The build with the default for each field that is left out, at every level, and without the
entries that are left out. -/
def without (o : Omission) (b : Build ν) : Build ν :=
  let standard : Build ν := .standard
  let part (name : String) : Omission := o.within (.member name)
  { className := o.pick "class" standard.className b.className
    ascendancy := o.pick "ascendancy" standard.ascendancy b.ascendancy
    level := o.pick "level" standard.level b.level
    nodes := o.pick "allocated_nodes" standard.nodes b.nodes
    masteries := o.pick "mastery_selections" standard.masteries
      ((part "mastery_selections").entries toString (fun _ effect => effect) b.masteries)
    jewels := o.pick "jewels" standard.jewels
      ((part "jewels").entries toString Item.without b.jewels)
    items := o.pick "items" standard.items ((part "items").slots b.items)
    activeSet := o.pick "active_weapon_set" standard.activeSet b.activeSet
    skills := o.pick "skill_groups" standard.skills
      ((part "skill_groups").items SkillGroup.without b.skills)
    settings := o.pick "config" standard.settings (b.settings.without (part "config")) }

theorem without_nothing (b : Build ν) : b.without .nothing = b := by
  simp [without, Settings.without_nothing, Omission.entries_nothing,
    Omission.entries_nothing Item.without_nothing, Omission.slots_nothing,
    Omission.items_nothing SkillGroup.without_nothing]

/-- A build is read with the default for each field that is left out, at every level, and without
the entries that are left out. -/
theorem ofDocument?_without (b : Build ν) (h : ∀ n ∈ b.counts, n < Nat.pow 2 32) (o : Omission) :
    ofDocument? (b.toDocument.without o) = some (b.without o) := by
  simp only [counts, List.forall_mem_cons, List.forall_mem_append, List.forall_mem_map] at h
  obtain ⟨hlevel, ⟨⟨⟨⟨hnodes, hmastered⟩, heffects⟩, hsockets⟩, hskills⟩, hsettings⟩ := h
  have hallocated (o : Omission) : (((ofList ofCount b.nodes.toList : Document ν).without o).toList?
      toCount?).map (fun ids => Std.ExtTreeSet.ofList ids) = some b.nodes := by
    rw [without_ofList fun _ _ => rfl,
      toList?_ofList_of_mem fun node hnode => toCount?_ofCount (hnodes node hnode)]
    exact congrArg some (Std.ExtTreeSet.ext_mem fun node => by simp)
  have hmasteries (o : Omission) : ((ofMap (fun node : Nat => toString node) ofCount b.masteries :
      Document ν).without o).toMap? countKey? toCount? =
        some (o.entries toString (fun _ effect => effect) b.masteries) :=
    toMap?_without (fun node hnode => countKey?_toString (hmastered node hnode))
      fun entry hentry _ => toCount?_ofCount (heffects entry hentry)
  have hjewels (o : Omission) : ((ofMap (fun socket : Nat => toString socket) Item.toDocument
      b.jewels : Document ν).without o).toMap? countKey? Item.ofDocument? =
        some (o.entries toString Item.without b.jewels) :=
    toMap?_without (fun socket hsocket => countKey?_toString (hsockets socket hsocket))
      fun entry _ o => entry.2.ofDocument?_without o
  have hgroups (o : Omission) : ((ofList SkillGroup.toDocument b.skills : Document ν).without
      o).toList? SkillGroup.ofDocument? = some (o.items SkillGroup.without b.skills) :=
    toList?_without fun group hgroup o =>
      group.ofDocument?_without (fun n hn => hskills n (List.mem_flatMap.2 ⟨group, hgroup, hn⟩)) o
  rw [ofDocument?, toDocument, fields?_without]
  case hnames => rfl
  case hnodup => decide
  simp [Fields.orElse?_without, List.lookup_cons, Omission.pick_some, toOption?_without_text,
    toCount?_ofCount hlevel, hallocated, hmasteries, hjewels, itemsOfDocument?_without,
    WeaponSet.ofName?_name, hgroups, b.settings.ofDocument?_without hsettings, without, standard,
    -Nat.toString_eq_repr]

end Build

end Loadout
