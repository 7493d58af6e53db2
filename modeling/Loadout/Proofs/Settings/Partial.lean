import Loadout.Settings
import Loadout.Proofs.Document.Omission

/-!
# Settings with fields left out

Settings that were stored without some of their fields are read with the default for each of
these fields and with every other field as it was. The defaults are those of the structure that
has the field, which need not be zero: charges have a maximum of three, and an enemy is of level
84. Fields can be missing from the settings themselves and from the structures in them, at the
same time.

## Main definitions

* `ChargeSettings.without`, `EnemySettings.without`, `Settings.without`: the settings with the
  defaults for some fields
* `ChargeSettings.counts`, `Settings.counts`: the whole numbers in them, which are read back when
  they have 32 bits
* `EnemySettings.numbers`: the other numbers

## Main results

* `Settings.ofDocument?_without`: settings are read with the defaults for what is left out
-/

namespace Loadout

open Document

variable {ν : Type}

namespace ChargeSettings

/-- The whole numbers of the settings of charges. -/
def counts (c : ChargeSettings) : List Nat :=
  c.max :: c.count.toList

/-- The settings with the default for each field that is left out. -/
def without (o : Omission) (c : ChargeSettings) : ChargeSettings :=
  let standard : ChargeSettings := {}
  { enabled := o.pick "enabled" standard.enabled c.enabled
    count := o.pick "count" standard.count c.count
    max := o.pick "max" standard.max c.max }

theorem without_nothing (c : ChargeSettings) : c.without .nothing = c := rfl

/-- Charge settings are read with the default for each field that is left out. -/
theorem ofDocument?_without (c : ChargeSettings) (h : ∀ n ∈ c.counts, n < Nat.pow 2 32)
    (o : Omission) : ofDocument? ((c.toDocument : Document ν).without o) = some (c.without o) := by
  simp only [counts, List.forall_mem_cons, Option.mem_toList] at h
  have hcount (o : Omission) :
      ((ofOption ofCount c.count : Document ν).without o).toOption? toCount? = some c.count := by
    rw [without_ofOption fun _ _ => rfl]
    exact toOption?_ofOption_of_mem (fun n hn => toCount?_ofCount (h.2 n hn)) (by simp [ofCount])
  rw [ofDocument?, toDocument, fields?_without]
  case hnames => rfl
  case hnodup => decide
  simp [Fields.orElse?_without, List.lookup_cons, Omission.pick_some, toCount?_ofCount h.1, hcount,
    without]

end ChargeSettings

namespace EnemySettings

/-- The numbers of the settings of an enemy that may have a fraction. -/
def numbers (e : EnemySettings ν) : List ν :=
  [e.fireResist, e.coldResist, e.lightningResist, e.chaosResist, e.armour, e.evasion]

variable [Scalar ν]

/-- The settings with the default for each field that is left out. -/
def without (o : Omission) (e : EnemySettings ν) : EnemySettings ν :=
  let standard : EnemySettings ν := .standard
  { level := o.pick "level" standard.level e.level
    isBoss := o.pick "is_boss" standard.isBoss e.isBoss
    fireResist := o.pick "fire_resist" standard.fireResist e.fireResist
    coldResist := o.pick "cold_resist" standard.coldResist e.coldResist
    lightningResist := o.pick "lightning_resist" standard.lightningResist e.lightningResist
    chaosResist := o.pick "chaos_resist" standard.chaosResist e.chaosResist
    armour := o.pick "armour" standard.armour e.armour
    evasion := o.pick "evasion" standard.evasion e.evasion }

theorem without_nothing (e : EnemySettings ν) : e.without .nothing = e := rfl

/-- Enemy settings are read with the default for each field that is left out. -/
theorem ofDocument?_without (e : EnemySettings ν) (h : e.level < Nat.pow 2 32) (o : Omission) :
    ofDocument? (e.toDocument.without o) = some (e.without o) := by
  rw [ofDocument?, toDocument, fields?_without]
  case hnames => rfl
  case hnodup => decide
  simp [Fields.orElse?_without, List.lookup_cons, Omission.pick_some, toCount?_ofCount h,
    without, standard]

end EnemySettings

theorem conditionsOfDocument?_without (conditions : Std.ExtTreeMap String Bool) (o : Omission) :
    conditionsOfDocument? ((conditionsToDocument conditions : Document ν).without o) =
      some (o.entries id (fun _ on => on) conditions) :=
  toMap?_without (fun _ _ => rfl) (fun _ _ _ => rfl)

namespace Settings

/-- The whole numbers of the settings. -/
def counts (s : Settings ν) : List Nat :=
  s.powerCharges.counts ++ s.frenzyCharges.counts ++ s.enduranceCharges.counts ++ [s.enemy.level]

variable [Scalar ν]

/-- The settings with the default for each field that is left out, at every level. -/
def without (o : Omission) (s : Settings ν) : Settings ν :=
  let standard : Settings ν := .standard
  let part (name : String) : Omission := o.within (.member name)
  { powerCharges := o.pick "power_charges" standard.powerCharges
      (s.powerCharges.without (part "power_charges"))
    frenzyCharges := o.pick "frenzy_charges" standard.frenzyCharges
      (s.frenzyCharges.without (part "frenzy_charges"))
    enduranceCharges := o.pick "endurance_charges" standard.enduranceCharges
      (s.enduranceCharges.without (part "endurance_charges"))
    lowLife := o.pick "on_low_life" standard.lowLife s.lowLife
    fullLife := o.pick "on_full_life" standard.fullLife s.fullLife
    lowMana := o.pick "on_low_mana" standard.lowMana s.lowMana
    fullMana := o.pick "on_full_mana" standard.fullMana s.fullMana
    lowEnergyShield := o.pick "on_low_energy_shield" standard.lowEnergyShield s.lowEnergyShield
    fullEnergyShield := o.pick "on_full_energy_shield" standard.fullEnergyShield s.fullEnergyShield
    enemy := o.pick "enemy" standard.enemy (s.enemy.without (part "enemy"))
    conditions := o.pick "conditions" standard.conditions
      ((part "conditions").entries id (fun _ on => on) s.conditions)
    lines := o.pick "custom_mods" standard.lines s.lines }

theorem without_nothing (s : Settings ν) : s.without .nothing = s := by
  simp [without, ChargeSettings.without_nothing, EnemySettings.without_nothing,
    Omission.entries_nothing]

/-- Settings are read with the default for each field that is left out, at every level. -/
theorem ofDocument?_without (s : Settings ν) (h : ∀ n ∈ s.counts, n < Nat.pow 2 32) (o : Omission) :
    ofDocument? (s.toDocument.without o) = some (s.without o) := by
  simp only [counts, List.forall_mem_append, List.forall_mem_singleton] at h
  obtain ⟨⟨⟨hpower, hfrenzy⟩, hendurance⟩, henemy⟩ := h
  have hlines (o : Omission) :
      ((ofList text s.lines : Document ν).without o).toList? toText? = some s.lines := by
    rw [without_ofList fun _ _ => rfl, toList?_ofList toText?_text]
  rw [ofDocument?, toDocument, fields?_without]
  case hnames => rfl
  case hnodup => decide
  simp [Fields.orElse?_without, List.lookup_cons, Omission.pick_some,
    ChargeSettings.ofDocument?_without _ hpower, ChargeSettings.ofDocument?_without _ hfrenzy,
    ChargeSettings.ofDocument?_without _ hendurance, EnemySettings.ofDocument?_without _ henemy,
    conditionsOfDocument?_without, hlines, without, standard]

end Settings

end Loadout
