import Loadout.Context
import Loadout.Document.Basic

/-!
# Settings of a build

Settings say how many charges are up, which states hold and what the enemy is like.
Resolving them clamps each count of charges to its maximum and lets a low state win over
the full state of the same pool.

## Main definitions

* `ChargeSettings`, `EnemySettings`, `Settings`: as stored with a build
* `Settings.resolve`, `ResolvedSettings`: as the rest of the library reads them
* `ResolvedSettings.conditions`, `ResolvedSettings.apply`: the conditions they set
-/

namespace Loadout

/-- Charges of one type. -/
structure ChargeSettings where
  enabled : Bool := false
  /-- The wanted count; none means the maximum. -/
  count : Option Nat := none
  max : Nat := 3
  deriving DecidableEq

/-- How many charges are up. -/
def ChargeSettings.resolve (c : ChargeSettings) : Nat :=
  if c.enabled then min (c.count.getD c.max) c.max else 0

/-- The enemy. -/
structure EnemySettings (ν : Type) where
  level : Nat
  isBoss : Bool
  fireResist : ν
  coldResist : ν
  lightningResist : ν
  chaosResist : ν
  armour : ν
  evasion : ν
  deriving BEq

/-- An enemy without resistances or defences. -/
def EnemySettings.standard {ν : Type} [Scalar ν] : EnemySettings ν :=
  { level := 84
    isBoss := false
    fireResist := Scalar.zero
    coldResist := Scalar.zero
    lightningResist := Scalar.zero
    chaosResist := Scalar.zero
    armour := Scalar.zero
    evasion := Scalar.zero }

/-- Settings as stored with a build. -/
structure Settings (ν : Type) where
  powerCharges : ChargeSettings := {}
  frenzyCharges : ChargeSettings := {}
  enduranceCharges : ChargeSettings := {}
  lowLife : Bool := false
  fullLife : Bool := false
  lowMana : Bool := false
  fullMana : Bool := false
  lowEnergyShield : Bool := false
  fullEnergyShield : Bool := false
  enemy : EnemySettings ν
  conditions : Std.ExtTreeMap String Bool := ∅
  /-- Free lines of modifiers. -/
  lines : List String := []
  deriving BEq

/-- Settings with charges counted and states settled. -/
structure ResolvedSettings (ν : Type) where
  powerCharges : Nat
  frenzyCharges : Nat
  enduranceCharges : Nat
  lowLife : Bool
  fullLife : Bool
  lowMana : Bool
  fullMana : Bool
  lowEnergyShield : Bool
  fullEnergyShield : Bool
  enemy : EnemySettings ν
  conditions : Std.ExtTreeMap String Bool
  lines : List String
  deriving BEq

namespace Settings

variable {ν : Type}

/-- Nothing is set. -/
def standard [Scalar ν] : Settings ν :=
  { enemy := .standard }

/-- Counts the charges and settles the states: a low state excludes the full one. -/
def resolve (s : Settings ν) : ResolvedSettings ν :=
  { powerCharges := s.powerCharges.resolve
    frenzyCharges := s.frenzyCharges.resolve
    enduranceCharges := s.enduranceCharges.resolve
    lowLife := s.lowLife
    fullLife := s.fullLife && !s.lowLife
    lowMana := s.lowMana
    fullMana := s.fullMana && !s.lowMana
    lowEnergyShield := s.lowEnergyShield
    fullEnergyShield := s.fullEnergyShield && !s.lowEnergyShield
    enemy := s.enemy
    conditions := s.conditions
    lines := s.lines }

end Settings

namespace ResolvedSettings

variable {ν : Type}

/-- Every condition that the settings decide: the states first, then the named ones in order. -/
def decisions (s : ResolvedSettings ν) : List (String × Bool) :=
  [("LowLife", s.lowLife), ("FullLife", s.fullLife), ("LowMana", s.lowMana),
    ("FullMana", s.fullMana), ("LowEnergyShield", s.lowEnergyShield),
    ("FullEnergyShield", s.fullEnergyShield)] ++ s.conditions.toList

/-- A situation with the conditions of the settings. A later decision overrides an earlier one. -/
def apply (s : ResolvedSettings ν) (ctx : Context ν) : Context ν :=
  s.decisions.foldl (fun ctx decision => ctx.setCondition decision.1 decision.2) ctx

end ResolvedSettings

/-! ### Written form -/

variable {ν : Type}

namespace ChargeSettings

/-- Charge settings with all their fields. -/
def toDocument (c : ChargeSettings) : Document ν :=
  .record [("enabled", .bool c.enabled), ("count", .ofOption .ofCount c.count),
    ("max", .ofCount c.max)]

/-- Reads charge settings; any field may be left out. -/
def ofDocument? (d : Document ν) : Option ChargeSettings := do
  let f ← d.fields? ["enabled", "count", "max"]
  return {
    enabled := ← f.orElse? "enabled" false Document.toBool?
    count := ← f.orElse? "count" none (Document.toOption? Document.toCount?)
    max := ← f.orElse? "max" 3 Document.toCount? }

end ChargeSettings

namespace EnemySettings

/-- Enemy settings with all their fields. -/
def toDocument (e : EnemySettings ν) : Document ν :=
  .record [
    ("level", .ofCount e.level),
    ("is_boss", .bool e.isBoss),
    ("fire_resist", .float e.fireResist),
    ("cold_resist", .float e.coldResist),
    ("lightning_resist", .float e.lightningResist),
    ("chaos_resist", .float e.chaosResist),
    ("armour", .float e.armour),
    ("evasion", .float e.evasion)]

/-- Reads enemy settings; any field may be left out. -/
def ofDocument? [Scalar ν] (d : Document ν) : Option (EnemySettings ν) := do
  let f ← d.fields? ["level", "is_boss", "fire_resist", "cold_resist", "lightning_resist",
    "chaos_resist", "armour", "evasion"]
  let number (name : String) : Option ν := f.orElse? name Scalar.zero Document.toNumber?
  return {
    level := ← f.orElse? "level" 84 Document.toCount?
    isBoss := ← f.orElse? "is_boss" false Document.toBool?
    fireResist := ← number "fire_resist"
    coldResist := ← number "cold_resist"
    lightningResist := ← number "lightning_resist"
    chaosResist := ← number "chaos_resist"
    armour := ← number "armour"
    evasion := ← number "evasion" }

end EnemySettings

/-- Conditions by name. -/
def conditionsToDocument (conditions : Std.ExtTreeMap String Bool) : Document ν :=
  .ofMap id .bool conditions

/-- Reads conditions by name. -/
def conditionsOfDocument? (d : Document ν) : Option (Std.ExtTreeMap String Bool) :=
  d.toMap? some Document.toBool?

namespace Settings

/-- Settings with all their fields. -/
def toDocument (s : Settings ν) : Document ν :=
  .record [
    ("power_charges", s.powerCharges.toDocument),
    ("frenzy_charges", s.frenzyCharges.toDocument),
    ("endurance_charges", s.enduranceCharges.toDocument),
    ("on_low_life", .bool s.lowLife),
    ("on_full_life", .bool s.fullLife),
    ("on_low_mana", .bool s.lowMana),
    ("on_full_mana", .bool s.fullMana),
    ("on_low_energy_shield", .bool s.lowEnergyShield),
    ("on_full_energy_shield", .bool s.fullEnergyShield),
    ("enemy", s.enemy.toDocument),
    ("conditions", conditionsToDocument s.conditions),
    ("custom_mods", .ofList .text s.lines)]

/-- Reads settings; any field may be left out. -/
def ofDocument? [Scalar ν] (d : Document ν) : Option (Settings ν) := do
  let f ← d.fields? ["power_charges", "frenzy_charges", "endurance_charges", "on_low_life",
    "on_full_life", "on_low_mana", "on_full_mana", "on_low_energy_shield",
    "on_full_energy_shield", "enemy", "conditions", "custom_mods"]
  let charges (name : String) : Option ChargeSettings :=
    f.orElse? name {} ChargeSettings.ofDocument?
  let state (name : String) : Option Bool := f.orElse? name false Document.toBool?
  return {
    powerCharges := ← charges "power_charges"
    frenzyCharges := ← charges "frenzy_charges"
    enduranceCharges := ← charges "endurance_charges"
    lowLife := ← state "on_low_life"
    fullLife := ← state "on_full_life"
    lowMana := ← state "on_low_mana"
    fullMana := ← state "on_full_mana"
    lowEnergyShield := ← state "on_low_energy_shield"
    fullEnergyShield := ← state "on_full_energy_shield"
    enemy := ← f.orElse? "enemy" .standard EnemySettings.ofDocument?
    conditions := ← f.orElse? "conditions" ∅ conditionsOfDocument?
    lines := ← f.orElse? "custom_mods" [] (Document.toList? Document.toText?) }

end Settings

/-- Resolved settings with all their fields. -/
def ResolvedSettings.toDocument (s : ResolvedSettings ν) : Document ν :=
  .record [
    ("power_charges", .ofCount s.powerCharges),
    ("frenzy_charges", .ofCount s.frenzyCharges),
    ("endurance_charges", .ofCount s.enduranceCharges),
    ("low_life", .bool s.lowLife),
    ("full_life", .bool s.fullLife),
    ("low_mana", .bool s.lowMana),
    ("full_mana", .bool s.fullMana),
    ("low_energy_shield", .bool s.lowEnergyShield),
    ("full_energy_shield", .bool s.fullEnergyShield),
    ("enemy", s.enemy.toDocument),
    ("conditions", conditionsToDocument s.conditions),
    ("custom_mods", .ofList .text s.lines)]

end Loadout
