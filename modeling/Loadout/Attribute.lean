import Loadout.Modifier.Basic

/-!
# What attributes grant

Each point of a core attribute grants a bonus to other stats, for some of them only in
whole steps and for some only to queries with certain flags. An attribute that is
not positive grants nothing.

## Main definitions

* `AttributeRule`: one attribute's bonus to one stat
* `AttributeRule.bonus`: the bonus at an attribute's value
* `AttributeRule.all`, `AttributeRule.feeding`: the rules, and those of one stat
* `Attributes`: the core attributes of a build
-/

namespace Loadout

/-- One attribute's bonus to one stat. -/
structure AttributeRule (ν : Type) where
  source : String
  target : String
  /-- A base or an increase. -/
  kind : Kind
  multiplier : ν
  /-- The step in which points count, if they do not count singly. -/
  step : Option Nat
  /-- The flags that a query needs for the bonus. -/
  flags : DamageFlags

/-- The names of the core attributes. -/
def coreAttributes : List String :=
  ["Strength", "Dexterity", "Intelligence"]

namespace AttributeRule

variable {ν : Type} [Scalar ν]

/-- The bonus at an attribute's value. Only the number of steps is rounded. -/
def bonus (rule : AttributeRule ν) (points : ν) : ν :=
  if points ≤ Scalar.zero then
    Scalar.zero
  else
    match rule.step with
    | some (d + 1) => Scalar.floor (points / Scalar.ofInt (d + 1 : Nat)) * rule.multiplier
    | _ => points * rule.multiplier

/-- One hundredth. -/
def percent : ν :=
  Scalar.ofDecimal false 1 (-2)

/-- Every rule. -/
def all : List (AttributeRule ν) :=
  [⟨"Strength", "Life", .base, Scalar.one, some 2, .empty⟩,
    ⟨"Strength", "PhysicalDamage", .increased, percent, some 5, .single 5⟩,
    ⟨"Dexterity", "Accuracy", .base, Scalar.ofInt 2, none, .empty⟩,
    ⟨"Dexterity", "Evasion", .increased, percent, some 5, .empty⟩,
    ⟨"Intelligence", "Mana", .base, Scalar.one, some 2, .empty⟩,
    ⟨"Intelligence", "EnergyShield", .increased, percent, some 5, .empty⟩]

/-- The rules that feed a stat. -/
def feeding (stat : String) : List (AttributeRule ν) :=
  all.filter fun rule => rule.target == stat

end AttributeRule

/-- The core attributes of a build. -/
structure Attributes (ν : Type) where
  strength : ν
  dexterity : ν
  intelligence : ν
  deriving BEq

end Loadout
