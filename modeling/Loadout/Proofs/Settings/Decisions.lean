import Loadout.Layer.Settings
import Loadout.Proofs.Document.Entries
import Loadout.Proofs.Store.Scanning

/-!
# What the settings decide

The settings decide conditions in two ways. The switches for the low and the full state of a pool
are settled, so that the low state excludes the full one, and named conditions are taken as they
are. All decisions stand in one list, the states first. A situation goes by the last decision
about a name; the layer of the settings has a switch for every decision that is positive.

A named condition may bear the name of a state. It then has the last word in the situation, and
what was settled no longer counts: both states of a pool can hold, or a low state does not hold
although its switch is on. The layer keeps the switch of the settled state beside it. Both
happen in the cases listed here and in no others.

## Main definitions

* `Pool`: what has a low and a full state
* `Settings.Settled`: the states that the switches come to
* `Settings.Reopened`: the named conditions let both states of a pool hold
* `Settings.Denied`: a named condition denies a state that was settled

## Main results

* `ResolvedSettings.holds_apply`: which conditions hold in a situation after the settings
* `Settings.pool_apply_iff`: when the states of a pool stay exclusive, and when low stays low
* `Layer.switch_settings_iff`: when the layer and the situation tell the same
-/

namespace Loadout

variable {ν : Type}

/-! ### The last word about a name -/

namespace Context

/-- Decisions on different names are put into a situation one by one, and each name keeps its
own. -/
theorem holds_foldl_setCondition {decisions : List (String × Bool)}
    (h : decisions.Pairwise fun a b => a.1 ≠ b.1) (ctx : Context ν) (name : String) :
    (decisions.foldl (fun ctx decision => ctx.setCondition decision.1 decision.2) ctx).holds name =
      (decisions.lookup name).getD (ctx.holds name) := by
  induction decisions generalizing ctx with
  | nil => rfl
  | cons decision decisions ih =>
    obtain ⟨hfirst, hrest⟩ := List.pairwise_cons.mp h
    rw [List.foldl_cons, ih hrest, holds_setCondition, List.lookup_cons]
    by_cases hname : decision.1 = name
    · have hnone : decisions.lookup name = none :=
        List.lookup_eq_none_iff.mpr fun other hother =>
          bne_iff_ne.mpr (hname ▸ hfirst other hother)
      rw [hnone, if_pos hname, beq_iff_eq.mpr hname.symm]
      rfl
    · rw [if_neg hname, beq_eq_false_iff_ne.mpr (Ne.symm hname)]

end Context

namespace ResolvedSettings

variable (s : ResolvedSettings ν)

/-- The decisions about the states of the pools. -/
def states : List (String × Bool) :=
  [("LowLife", s.lowLife), ("FullLife", s.fullLife), ("LowMana", s.lowMana),
    ("FullMana", s.fullMana), ("LowEnergyShield", s.lowEnergyShield),
    ("FullEnergyShield", s.fullEnergyShield)]

theorem decisions_eq : s.decisions = s.states ++ s.conditions.toList :=
  rfl

theorem pairwise_states : s.states.Pairwise fun a b => a.1 ≠ b.1 := by
  have hnames : (s.states.map (·.1)).Pairwise (· ≠ ·) := by
    simp only [states, List.map_cons, List.map_nil]
    decide
  exact List.pairwise_map.mp hnames

/-- A named condition has the last word about its name, a state has it about any other of the
states, and all else is as it was. -/
theorem holds_apply (ctx : Context ν) (name : String) :
    (s.apply ctx).holds name =
      (s.conditions[name]?).getD ((s.states.lookup name).getD (ctx.holds name)) := by
  rw [apply, decisions_eq, List.foldl_append,
    Context.holds_foldl_setCondition (pairwise_toList s.conditions),
    Context.holds_foldl_setCondition s.pairwise_states, lookup_toList]

end ResolvedSettings

/-! ### Pools and their states -/

/-- What has a low and a full state. -/
inductive Pool where
  | life
  | mana
  | energyShield

namespace Pool

/-- The condition that a pool is low. -/
def low : Pool → String
  | life => "LowLife"
  | mana => "LowMana"
  | energyShield => "LowEnergyShield"

/-- The condition that a pool is full. -/
def full : Pool → String
  | life => "FullLife"
  | mana => "FullMana"
  | energyShield => "FullEnergyShield"

end Pool

namespace Settings

variable (s : Settings ν)

/-- Whether the switch for the low state of a pool is on. -/
def isLow : Pool → Bool
  | .life => s.lowLife
  | .mana => s.lowMana
  | .energyShield => s.lowEnergyShield

/-- Whether the switch for the full state of a pool is on. -/
def isFull : Pool → Bool
  | .life => s.fullLife
  | .mana => s.fullMana
  | .energyShield => s.fullEnergyShield

/-- The states that the switches come to: a low state if its switch is on, and a full state if its
switch is on and that of the low one is not. -/
inductive Settled : String → Prop
  | low (pool : Pool) (hlow : s.isLow pool = true) : Settled pool.low
  | full (pool : Pool) (hlow : s.isLow pool = false) (hfull : s.isFull pool = true) :
      Settled pool.full

/-- The named conditions let both states of a pool hold: they say so of both, or of the one that
was not settled and nothing of the other. -/
inductive Reopened (pool : Pool) : Prop
  | named (hlow : s.conditions[pool.low]? = some true)
      (hfull : s.conditions[pool.full]? = some true)
  | besideLow (hlow : s.Settled pool.low) (hnone : s.conditions[pool.low]? = none)
      (hfull : s.conditions[pool.full]? = some true)
  | besideFull (hlow : s.conditions[pool.low]? = some true) (hfull : s.Settled pool.full)
      (hnone : s.conditions[pool.full]? = none)

/-- A named condition denies a state that was settled. -/
def Denied (name : String) : Prop :=
  s.Settled name ∧ s.conditions[name]? = some false

end Settings

namespace Pool

theorem lookup_low (pool : Pool) (s : Settings ν) :
    s.resolve.states.lookup pool.low = some (s.isLow pool) := by
  cases pool <;> rfl

theorem lookup_full (pool : Pool) (s : Settings ν) :
    s.resolve.states.lookup pool.full = some (s.isFull pool && !s.isLow pool) := by
  cases pool <;> rfl

end Pool

namespace Settings

variable {s : Settings ν}

theorem settled_iff {name : String} :
    s.Settled name ↔ s.resolve.states.lookup name = some true := by
  constructor
  · rintro (⟨pool, hlow⟩ | ⟨pool, hlow, hfull⟩)
    · rw [pool.lookup_low, hlow]
    · rw [pool.lookup_full, hlow, hfull]
      rfl
  · intro h
    have hmem := (lookup_eq_some_iff_mem s.resolve.pairwise_states).mp h
    have hfull (pool : Pool) (hactive : true = (s.isFull pool && !s.isLow pool)) :
        s.Settled pool.full := by
      rw [eq_comm, Bool.and_eq_true, Bool.not_eq_true'] at hactive
      exact .full pool hactive.2 hactive.1
    simp only [ResolvedSettings.states, resolve, List.mem_cons, List.not_mem_nil, or_false,
      Prod.mk.injEq] at hmem
    rcases hmem with ⟨rfl, hactive⟩ | ⟨rfl, hactive⟩ | ⟨rfl, hactive⟩ | ⟨rfl, hactive⟩ |
      ⟨rfl, hactive⟩ | ⟨rfl, hactive⟩
    · exact .low .life hactive.symm
    · exact hfull .life hactive
    · exact .low .mana hactive.symm
    · exact hfull .mana hactive
    · exact .low .energyShield hactive.symm
    · exact hfull .energyShield hactive

theorem holds_low (s : Settings ν) (ctx : Context ν) (pool : Pool) :
    (s.resolve.apply ctx).holds pool.low = (s.conditions[pool.low]?).getD (s.isLow pool) := by
  rw [ResolvedSettings.holds_apply, pool.lookup_low]
  rfl

theorem holds_full (s : Settings ν) (ctx : Context ν) (pool : Pool) :
    (s.resolve.apply ctx).holds pool.full =
      (s.conditions[pool.full]?).getD (s.isFull pool && !s.isLow pool) := by
  rw [ResolvedSettings.holds_apply, pool.lookup_full]
  rfl

theorem settled_low_iff {pool : Pool} : s.Settled pool.low ↔ s.isLow pool = true := by
  rw [settled_iff, pool.lookup_low, Option.some_inj]

theorem settled_full_iff {pool : Pool} :
    s.Settled pool.full ↔ (s.isFull pool && !s.isLow pool) = true := by
  rw [settled_iff, pool.lookup_full, Option.some_inj]

/-- Whatever the situation was before, both states of a pool hold after the settings only where the
named conditions reopen it. -/
theorem holds_both_iff (ctx : Context ν) (pool : Pool) :
    ((s.resolve.apply ctx).holds pool.low = true ∧ (s.resolve.apply ctx).holds pool.full = true) ↔
      s.Reopened pool := by
  rw [holds_low, holds_full]
  constructor
  · rintro ⟨hlow, hfull⟩
    cases hnamed : s.conditions[pool.low]? with
    | none =>
      rw [hnamed, Option.getD_none] at hlow
      cases hnamed' : s.conditions[pool.full]? with
      | none =>
        -- The switches settle one state only.
        rw [hnamed', Option.getD_none, hlow] at hfull
        exact absurd hfull (by simp)
      | some active =>
        rw [hnamed', Option.getD_some] at hfull
        exact .besideLow (settled_low_iff.mpr hlow) hnamed (hfull ▸ hnamed')
    | some active =>
      rw [hnamed, Option.getD_some] at hlow
      cases hnamed' : s.conditions[pool.full]? with
      | none =>
        rw [hnamed', Option.getD_none] at hfull
        exact .besideFull (hlow ▸ hnamed) (settled_full_iff.mpr hfull) hnamed'
      | some active' =>
        rw [hnamed', Option.getD_some] at hfull
        exact .named (hlow ▸ hnamed) (hfull ▸ hnamed')
  · rintro (⟨hlow, hfull⟩ | ⟨hlow, hnone, hfull⟩ | ⟨hlow, hfull, hnone⟩)
    · rw [hlow, hfull]
      exact ⟨rfl, rfl⟩
    · rw [hnone, hfull]
      exact ⟨settled_low_iff.mp hlow, rfl⟩
    · rw [hlow, hnone]
      exact ⟨rfl, settled_full_iff.mp hfull⟩

/-- A low state whose switch is on holds after the settings unless a named condition denies it. -/
theorem holds_low_iff (ctx : Context ν) (pool : Pool) (hlow : s.isLow pool = true) :
    (s.resolve.apply ctx).holds pool.low = true ↔ ¬ s.Denied pool.low := by
  rw [holds_low, hlow, Denied, settled_low_iff]
  cases s.conditions[pool.low]? with
  | none => simp
  | some active => simp [hlow]

/-- Whatever the switches, the named conditions and the situation before: after the settings the
low and the full state of a pool exclude each other exactly where the named conditions do not
reopen the pool, and the low state holds when its switch is on exactly where they do not deny
it. -/
theorem pool_apply_iff (s : Settings ν) (ctx : Context ν) (pool : Pool) :
    (¬ ((s.resolve.apply ctx).holds pool.low = true ∧
        (s.resolve.apply ctx).holds pool.full = true) ↔ ¬ s.Reopened pool) ∧
      ((s.isLow pool = true → (s.resolve.apply ctx).holds pool.low = true) ↔
        ¬ s.Denied pool.low) := by
  refine ⟨not_congr (holds_both_iff ctx pool), fun h hdenied => ?_, fun h hlow => ?_⟩
  · have hlow := settled_low_iff.mp hdenied.1
    exact (holds_low_iff ctx pool hlow).mp (h hlow) hdenied
  · exact (holds_low_iff ctx pool hlow).mpr h

/-- Low life is switched on, and a condition of that name or that of full life is named beside
it. -/
theorem pool_reopened_and_denied :
    let low : Settings Float := { Settings.standard with lowLife := true }
    let besideFull := { low with conditions := .ofList [("FullLife", true)] }
    let denied := { low with conditions := .ofList [("LowLife", false)] }
    ((besideFull.resolve.apply .empty).holds "LowLife" = true ∧
        (besideFull.resolve.apply .empty).holds "FullLife" = true) ∧
      (denied.isLow .life = true ∧ (denied.resolve.apply .empty).holds "LowLife" = false) := by
  decide

end Settings

/-! ### The layer of the settings -/

theorem Modifier.isSome_effect?_switch [Scalar ν] (stat other : String) (origin : Origin) :
    (Scan.effect? .flag other .empty (switch stat origin : Modifier ν)).isSome = true ↔
      stat = other := by
  have heffect : (effect? (switch stat origin : Modifier ν) .empty).isSome = true := rfl
  by_cases hstat : stat = other
  · rw [Scan.effect?, if_pos ⟨hstat, rfl⟩]
    exact iff_of_true heffect hstat
  · rw [Scan.effect?, if_neg fun h => hstat h.1]
    exact iff_of_false Bool.false_ne_true hstat

theorem Layer.value_of_mem_charges [Scalar ν] {stat : String} {count : Nat} {m : Modifier ν}
    (h : m ∈ charges stat count) : m.value ≠ .flag true := by
  unfold charges at h
  split at h
  · exact absurd h List.not_mem_nil
  · rw [List.mem_singleton.mp h]
    exact nofun

/-- Without free lines, the layer of the settings answers that a condition is on exactly when there
is a decision that it holds. -/
theorem Layer.switch_settings [Scalar ν] (g : Grammar ν) {s : ResolvedSettings ν}
    (hlines : s.lines = []) (name : String) :
    (Store.ofList (Layer.settings g s)).switch ("Condition:" ++ name) .empty = true ↔
      (name, true) ∈ s.decisions := by
  rw [(Store.indexed_ofList _).switch_iff, Store.toList_ofList]
  constructor
  · rintro ⟨m, hm, hvalue, heffect⟩
    rw [Layer.settings, hlines] at hm
    simp only [List.mem_append, List.mem_map, List.mem_filter] at hm
    rcases hm with (((hm | hm) | hm) | ⟨decision, ⟨hmem, hactive⟩, rfl⟩) | hm
    · exact absurd hvalue (value_of_mem_charges hm)
    · exact absurd hvalue (value_of_mem_charges hm)
    · exact absurd hvalue (value_of_mem_charges hm)
    · have hstat := (Modifier.isSome_effect?_switch _ _ _).mp heffect
      rw [← (String.append_right_inj "Condition:").mp hstat, ← hactive]
      exact hmem
    · exact absurd hm List.not_mem_nil
  · intro hmem
    refine ⟨.switch ("Condition:" ++ name) settingsOrigin, ?_, rfl,
      (Modifier.isSome_effect?_switch _ _ _).mpr rfl⟩
    have hswitch : Modifier.switch ("Condition:" ++ name) settingsOrigin ∈
        (s.decisions.filter (·.2)).map fun decision =>
          (.switch ("Condition:" ++ decision.1) settingsOrigin : Modifier ν) :=
      List.mem_map.mpr ⟨(name, true), List.mem_filter.mpr ⟨hmem, rfl⟩, rfl⟩
    exact List.mem_append_left _ (List.mem_append_right _ hswitch)

theorem Settings.mem_decisions_iff {s : Settings ν} {name : String} :
    (name, true) ∈ s.resolve.decisions ↔
      s.Settled name ∨ s.conditions[name]? = some true := by
  rw [ResolvedSettings.decisions_eq, List.mem_append,
    Std.ExtTreeMap.mem_toList_iff_getElem?_eq_some, settled_iff,
    lookup_eq_some_iff_mem s.resolve.pairwise_states]
  rfl

/-- Settings without free lines tell the same about a condition in their layer and in a situation
that is otherwise empty exactly where no named condition denies a state that was settled. -/
theorem Layer.switch_settings_iff [Scalar ν] (g : Grammar ν) (s : Settings ν)
    (hlines : s.lines = []) (name : String) :
    ((Store.ofList (Layer.settings g s.resolve)).switch ("Condition:" ++ name) .empty = true ↔
        (s.resolve.apply .empty).holds name = true) ↔ ¬ s.Denied name := by
  rw [switch_settings g hlines, Settings.mem_decisions_iff, ResolvedSettings.holds_apply,
    Settings.Denied]
  have hnamed : s.resolve.conditions[name]? = s.conditions[name]? := rfl
  have hempty : (.empty : Context ν).holds name = false := rfl
  rw [hnamed, hempty]
  cases hcondition : s.conditions[name]? with
  | none =>
    have hsettled : (s.resolve.states.lookup name).getD false = true ↔ s.Settled name := by
      rw [Settings.settled_iff]
      cases s.resolve.states.lookup name with
      | none => simp
      | some active => simp
    simp [hsettled]
  | some active =>
    cases active with
    | true => simp
    | false => simp

/-- Low life is switched on, and another condition is named: the switch of low life is in the layer,
and low life holds. -/
theorem Layer.switch_settings_iff_lowLife :
    let g : Grammar Float := ⟨.empty, [], .ofRows [], .ofRows [], .ofRows []⟩
    let s : Settings Float :=
      { Settings.standard with lowLife := true, conditions := .ofList [("KilledRecently", true)] }
    s.lines = [] ∧
      ((Store.ofList (Layer.settings g s.resolve)).switch ("Condition:" ++ "LowLife") .empty =
          true ↔ (s.resolve.apply .empty).holds "LowLife" = true) := by
  intro g s
  refine ⟨rfl, (switch_settings_iff g s rfl "LowLife").mpr fun hdenied => ?_⟩
  have hnone : s.conditions["LowLife"]? = none := by decide
  exact absurd (hnone.symm.trans hdenied.2) (Option.some_ne_none false).symm

/-- Low life is switched on and denied by name: the switch is in the layer, but low life does not
hold. -/
theorem Layer.switch_settings_denied :
    let g : Grammar Float := ⟨.empty, [], .ofRows [], .ofRows [], .ofRows []⟩
    let s : Settings Float :=
      { Settings.standard with lowLife := true, conditions := .ofList [("LowLife", false)] }
    (Store.ofList (Layer.settings g s.resolve)).switch ("Condition:" ++ "LowLife") .empty = true ∧
      (s.resolve.apply .empty).holds "LowLife" = false := by
  intro g s
  refine ⟨(switch_settings g rfl "LowLife").mpr ?_, by decide⟩
  exact Settings.mem_decisions_iff.mpr (.inl (.low .life rfl))

end Loadout
