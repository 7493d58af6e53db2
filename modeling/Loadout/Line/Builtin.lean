import Loadout.Line.Tables

/-!
# The built-in parser tables

The tables that lines are read by unless others are given. The order of the forms
matters: the first that matches decides.

## Main definitions

* `ParserTables.builtin`
-/

namespace Loadout.ParserTables

variable {ν : Type} [Scalar ν]

/-- One hundredth: percentages are kept as fractions. -/
def hundredth : ν :=
  Scalar.ofDecimal false 1 (-2)

/-- Minus one hundredth: reductions are negative increases. -/
def minusHundredth : ν :=
  Scalar.ofDecimal true 1 (-2)

/-- The forms, most specific first. -/
def builtinForms : List (FormRow ν) := [
  { id := "display"
    pattern := "^(?:corrupted|mirrored|unidentified|split|synthesised " ++
      "item|fractured item|can have up to # crafted modifiers)$"
    scale := Scalar.one
    displayOnly := true },
  { id := "local_adds"
    pattern := "^adds # to # (?P<type>physical|fire|cold|lightning|chaos) damage$"
    kind := some .base
    scale := Scalar.one
    outputs := ["\x7btype\x7dDamageMin", "\x7btype\x7dDamageMax"]
    isLocal := true },
  { id := "adds"
    pattern := "^adds # to # (?P<stat>.+)$"
    kind := some .base
    scale := Scalar.one
    outputs := ["\x7bstat\x7dMin", "\x7bstat\x7dMax"] },
  { id := "convert"
    pattern := "^#% of (?P<from>physical|lightning|cold|fire) damage (?:is " ++
      ")?converted to (?P<to>lightning|cold|fire|chaos) damage$"
    kind := some .base
    scale := hundredth
    outputs := ["\x7bfrom\x7dDamageConvertTo\x7bto\x7d"] },
  { id := "gain_as_extra"
    pattern := "^gain #% of (?P<from>physical|lightning|cold|fire) damage " ++
      "as extra (?P<to>lightning|cold|fire|chaos) damage$"
    kind := some .base
    scale := hundredth
    outputs := ["\x7bfrom\x7dDamageGainAs\x7bto\x7d"] },
  { id := "all_attributes"
    pattern := "^# to all attributes$"
    kind := some .base
    scale := Scalar.one
    outputs := ["Strength", "Dexterity", "Intelligence"] },
  { id := "all_elemental_resistances"
    pattern := "^#% to all elemental resistances$"
    kind := some .base
    scale := Scalar.one
    outputs := ["FireResist", "ColdResist", "LightningResist"] },
  { id := "increased"
    pattern := "^#% increased (?P<stat>.+)$"
    kind := some .increased
    scale := hundredth },
  { id := "reduced"
    pattern := "^#% reduced (?P<stat>.+)$"
    kind := some .increased
    scale := minusHundredth },
  { id := "more"
    pattern := "^#% more (?P<stat>.+)$"
    kind := some .more
    scale := hundredth },
  { id := "less"
    pattern := "^#% less (?P<stat>.+)$"
    kind := some .more
    scale := minusHundredth },
  { id := "regen_percent"
    pattern := "^regenerate #% of (?P<stat>.+?) per second$"
    kind := some .base
    scale := Scalar.one
    outputs := ["\x7bstat\x7dRegenPercent"] },
  { id := "regen"
    pattern := "^regenerate # (?P<stat>.+?) per second$"
    kind := some .base
    scale := Scalar.one
    outputs := ["\x7bstat\x7dRegen"] },
  { id := "chance"
    pattern := "^#% chance to (?P<stat>.+)$"
    kind := some .base
    scale := Scalar.one
    outputs := ["\x7bstat\x7dChance"] },
  { id := "override"
    pattern := "^(?P<stat>.+?) (?:is|becomes) #%?$"
    kind := some .override
    scale := Scalar.one },
  { id := "base"
    pattern := "^#%? to (?P<stat>.+)$"
    kind := some .base
    scale := Scalar.one },
  { id := "supported_by"
    pattern := "^socketed gems are supported by level # (?P<entry>.+)$"
    kind := some .list
    scale := Scalar.one
    outputs := ["ExtraSupport"] },
  { id := "cannot_be"
    pattern := "^(?:you )?cannot be (?P<what>[a-z ]+)$"
    kind := some .flag
    scale := Scalar.one
    outputs := ["CannotBe\x7bwhat\x7d"]
    value := some Scalar.one },
  { id := "immune"
    pattern := "^(?:you are )?immune to (?P<what>[a-z ]+)$"
    kind := some .flag
    scale := Scalar.one
    outputs := ["\x7bwhat\x7dImmune"]
    value := some Scalar.one }]

/-- The phrases that name stats. -/
def builtinStats : List StatRow := [
  { phrase := "life", stat := "Life" },
  { phrase := "maximum life", stat := "Life" },
  { phrase := "mana", stat := "Mana" },
  { phrase := "maximum mana", stat := "Mana" },
  { phrase := "energy shield", stat := "EnergyShield" },
  { phrase := "maximum energy shield", stat := "EnergyShield" },
  { phrase := "life regeneration rate", stat := "LifeRegenRate" },
  { phrase := "mana regeneration rate", stat := "ManaRegenRate" },
  { phrase := "armour", stat := "Armour" },
  { phrase := "evasion rating", stat := "Evasion" },
  { phrase := "accuracy rating", stat := "Accuracy" },
  { phrase := "strength", stat := "Strength" },
  { phrase := "dexterity", stat := "Dexterity" },
  { phrase := "intelligence", stat := "Intelligence" },
  { phrase := "damage", stat := "Damage" },
  { phrase := "attack damage", stat := "Damage", flags := ["ATTACK"] },
  { phrase := "spell damage", stat := "Damage", flags := ["SPELL"] },
  { phrase := "area damage", stat := "Damage", flags := ["AREA"] },
  { phrase := "projectile damage", stat := "Damage", flags := ["PROJECTILE"] },
  { phrase := "damage over time", stat := "Damage", flags := ["DOT"] },
  { phrase := "physical damage", stat := "PhysicalDamage" },
  { phrase := "fire damage", stat := "FireDamage" },
  { phrase := "cold damage", stat := "ColdDamage" },
  { phrase := "lightning damage", stat := "LightningDamage" },
  { phrase := "chaos damage", stat := "ChaosDamage" },
  { phrase := "elemental damage", stat := "ElementalDamage" },
  { phrase := "attack speed", stat := "Speed", flags := ["ATTACK"] },
  { phrase := "cast speed", stat := "Speed", flags := ["CAST"] },
  { phrase := "attack and cast speed", stat := "Speed" },
  { phrase := "movement speed", stat := "MovementSpeed" },
  { phrase := "critical strike chance", stat := "CritChance" },
  { phrase := "critical strike multiplier", stat := "CritMultiplier" },
  { phrase := "fire resistance", stat := "FireResist" },
  { phrase := "cold resistance", stat := "ColdResist" },
  { phrase := "lightning resistance", stat := "LightningResist" },
  { phrase := "chaos resistance", stat := "ChaosResist" },
  { phrase := "elemental resistances", stat := "ElementalResist" },
  { phrase := "maximum fire resistance", stat := "FireResistMax" },
  { phrase := "maximum cold resistance", stat := "ColdResistMax" },
  { phrase := "maximum lightning resistance", stat := "LightningResistMax" },
  { phrase := "area of effect", stat := "AreaOfEffect" },
  { phrase := "projectile speed", stat := "ProjectileSpeed" },
  { phrase := "skill effect duration", stat := "Duration" },
  { phrase := "mana cost of skills", stat := "ManaCost" },
  { phrase := "stun threshold", stat := "StunThreshold" },
  { phrase := "maximum power charges", stat := "PowerChargesMax" },
  { phrase := "maximum frenzy charges", stat := "FrenzyChargesMax" },
  { phrase := "maximum endurance charges", stat := "EnduranceChargesMax" },
  { phrase := "freeze", stat := "Freeze" },
  { phrase := "ignite", stat := "Ignite" },
  { phrase := "shock", stat := "Shock" },
  { phrase := "poison", stat := "Poison" },
  { phrase := "cause bleeding", stat := "Bleed" },
  { phrase := "block attack damage", stat := "Block" },
  { phrase := "block spell damage", stat := "SpellBlock" },
  { phrase := "light radius", stat := "LightRadius" },
  { phrase := "rarity of items found", stat := "LootRarity" },
  { phrase := "quantity of items found", stat := "LootQuantity" }]

/-- The phrases that name flags and keywords. -/
def builtinFlags : List FlagRow := [
  { phrase := "with attacks", flags := ["ATTACK"] },
  { phrase := "to attacks", flags := ["ATTACK"] },
  { phrase := "for attacks", flags := ["ATTACK"] },
  { phrase := "with attack skills", keywords := ["ATTACK"] },
  { phrase := "with spells", flags := ["SPELL"] },
  { phrase := "to spells", flags := ["SPELL"] },
  { phrase := "for spells", flags := ["SPELL"] },
  { phrase := "with spell skills", keywords := ["SPELL"] },
  { phrase := "melee", flags := ["MELEE"] },
  { phrase := "on hit", flags := ["HIT"] },
  { phrase := "with hits", flags := ["HIT"] },
  { phrase := "with axes", flags := ["AXE"] },
  { phrase := "with bows", flags := ["BOW"] },
  { phrase := "with claws", flags := ["CLAW"] },
  { phrase := "with daggers", flags := ["DAGGER"] },
  { phrase := "with maces", flags := ["MACE"] },
  { phrase := "with staves", flags := ["STAFF"] },
  { phrase := "with swords", flags := ["SWORD"] },
  { phrase := "with wands", flags := ["WAND"] },
  { phrase := "with one handed melee weapons", flags := ["WEAPON_ONE_HAND"] },
  { phrase := "with two handed melee weapons", flags := ["WEAPON_TWO_HAND"] },
  { phrase := "while dual wielding", flags := ["DUAL_WIELD"] },
  { phrase := "while holding a shield", flags := ["SHIELD"] },
  { phrase := "of aura skills", keywords := ["AURA"] },
  { phrase := "of curse skills", keywords := ["CURSE"] },
  { phrase := "of totem skills", keywords := ["TOTEM"] },
  { phrase := "of vaal skills", keywords := ["VAAL"] },
  { phrase := "with bow skills", keywords := ["BOW"] },
  { phrase := "with brand skills", keywords := ["BRAND"] },
  { phrase := "with traps", keywords := ["TRAP"] },
  { phrase := "with mines", keywords := ["MINE"] },
  { phrase := "with warcries", keywords := ["WARCRY"] },
  { phrase := "with fire skills", keywords := ["FIRE"] },
  { phrase := "with cold skills", keywords := ["COLD"] },
  { phrase := "with lightning skills", keywords := ["LIGHTNING"] },
  { phrase := "with chaos skills", keywords := ["CHAOS"] },
  { phrase := "with poison", keywords := ["POISON"] },
  { phrase := "with bleeding", keywords := ["BLEED"] },
  { phrase := "with ignite", keywords := ["IGNITE"] }]

/-- The phrases that name conditions. -/
def builtinConditions : List (ConditionRow ν) := [
  { phrase := "while on low life", condition := .state "LowLife" false },
  { phrase := "while on full life", condition := .state "FullLife" false },
  { phrase := "while on low mana", condition := .state "LowMana" false },
  { phrase := "while on full energy shield", condition := .state "FullEnergyShield" false },
  { phrase := "while leeching", condition := .state "Leeching" false },
  { phrase := "while fortified", condition := .state "Fortified" false },
  { phrase := "while moving", condition := .state "Moving" false },
  { phrase := "if you've killed recently", condition := .state "KilledRecently" false },
  { phrase := "if you've been hit recently", condition := .state "BeenHitRecently" false },
  { phrase := "if you haven't been hit recently", condition := .state "BeenHitRecently" true },
  { phrase := "per power charge", condition := .multiplier "PowerCharges" Scalar.one none },
  { phrase := "per frenzy charge", condition := .multiplier "FrenzyCharges" Scalar.one none },
  { phrase := "per endurance charge"
    condition := .multiplier "EnduranceCharges" Scalar.one none },
  { phrase := "per # strength", condition := .multiplier "Strength" Scalar.one none },
  { phrase := "per # dexterity", condition := .multiplier "Dexterity" Scalar.one none },
  { phrase := "per # intelligence", condition := .multiplier "Intelligence" Scalar.one none },
  { phrase := "with at least # strength", condition := .threshold "Strength" Scalar.zero true },
  { phrase := "with at least # dexterity", condition := .threshold "Dexterity" Scalar.zero true },
  { phrase := "with at least # intelligence"
    condition := .threshold "Intelligence" Scalar.zero true }]

/-- The known lines. -/
def builtinKnown : List (KnownRow ν) := [
  { text := "Maximum Life becomes 1, Immune to Chaos Damage"
    effects := [
      { stat := "Life"
        kind := .override
        value := .number Scalar.one
        scale := Scalar.one },
      { stat := "ChaosDamageImmune"
        kind := .flag
        value := .flag true
        scale := Scalar.one }] },
  { text := "Your hits can't be Evaded"
    effects := [
      { stat := "CannotBeEvaded"
        kind := .flag
        value := .flag true
        scale := Scalar.one }] },
  { text := "Never deal Critical Strikes"
    effects := [
      { stat := "NeverCrit"
        kind := .flag
        value := .flag true
        scale := Scalar.one }] },
  { text := "Has no Sockets"
    displayOnly := true },
  { text := "(7-10)% increased Attack Speed"
    effects := [
      { stat := "Speed"
        kind := .increased
        value := .number (Scalar.ofDecimal false 8 (-2))
        scale := hundredth
        flags := ["ATTACK"] }] },
  { text := "(15-25)% increased Global Critical Strike Chance"
    effects := [
      { stat := "CritChance"
        kind := .increased
        value := .number (Scalar.ofDecimal false 2 (-1))
        scale := hundredth }] },
  { text := "Adds (1-2) to (3-5) Lightning Damage to Attacks"
    effects := [
      { stat := "LightningDamageMin"
        kind := .base
        value := .number Scalar.one
        scale := Scalar.one
        flags := ["ATTACK"] },
      { stat := "LightningDamageMax"
        kind := .base
        value := .number (Scalar.ofInt 4)
        scale := Scalar.one
        flags := ["ATTACK"] }] },
  { text := "(170-200)% increased Physical Damage"
    effects := [
      { stat := "PhysicalDamage"
        kind := .increased
        value := .number (Scalar.ofDecimal false 185 (-2))
        scale := hundredth }]
    isLocal := true }]

/-- The built-in tables. -/
def builtin : ParserTables ν :=
  { forms := builtinForms
    stats := builtinStats
    flags := builtinFlags
    conditions := builtinConditions
    known := builtinKnown }

end Loadout.ParserTables
