import Loadout.Line.Grammar
import Loadout.Settings

/-!
# Modifiers of the settings

The settings of a build give two layers: one of the player, with the charges that are
up, a switch for each condition that holds and the free lines, and one of the enemy,
which is kept apart from the player's modifiers.

## Main definitions

* `Layer.settings`: the player's side
* `Layer.enemy`: the enemy
-/

namespace Loadout.Layer

variable {ν : Type} [Scalar ν]

/-- The origin of what the settings grant. -/
def settingsOrigin : Origin :=
  ⟨.config, none⟩

/-- The charges of one type, if any are up. -/
def charges (stat : String) (count : Nat) : List (Modifier ν) :=
  if count = 0 then [] else [.number stat .base (Scalar.ofInt count) settingsOrigin]

/-- The modifiers of the player's side of the settings. -/
def settings (g : Grammar ν) (s : ResolvedSettings ν) : List (Modifier ν) :=
  charges "PowerCharges" s.powerCharges ++
    charges "FrenzyCharges" s.frenzyCharges ++
    charges "EnduranceCharges" s.enduranceCharges ++
    ((s.decisions.filter (·.2)).map fun decision =>
      .switch ("Condition:" ++ decision.1) settingsOrigin) ++
    g.modifiersOf s.lines { origin := settingsOrigin }

/-- The modifiers of the enemy. -/
def enemy (e : EnemySettings ν) : List (Modifier ν) :=
  let origin : Origin := ⟨.enemy, none⟩
  let base (stat : String) (x : ν) : Modifier ν := .number stat .base x origin
  [base "Level" (Scalar.ofInt e.level),
    base "FireResist" e.fireResist,
    base "ColdResist" e.coldResist,
    base "LightningResist" e.lightningResist,
    base "ChaosResist" e.chaosResist,
    base "Armour" e.armour,
    base "Evasion" e.evasion] ++
    if e.isBoss then [.switch "Condition:Boss" origin] else []

end Loadout.Layer
