import Mathlib.Tactic.ByContra
import Loadout.Environment.Changes
import Loadout.Layer.Passives
import Loadout.Proofs.Number.Likeness

/-!
# What a comparison of builds sees

Every part of an environment reads certain fields of the build and no others. Where the
comparison of two builds marks a part as unchanged, the fields that this part reads hold the
same, up to numbers that comparison does not tell apart; those occur only in the settings of
the enemy.

## Main definitions

* `EnemySettings.Matches`, `Settings.Matches`: settings that pass the equality test
* `EnemySettings.Alike`, `Settings.Alike`, `ResolvedSettings.Alike`: equal settings, up to numbers
  that are alike
* `Changes.Covers`: one record of changes marks all that another marks
* `Changes.Complete`: what a record leaves unmarked reads the same in two builds

## Main results

* `ChangeSet.contains_ofList`, `Changes.contains_differingKeys`: a member is marked exactly
  when it differs
* `Changes.between_items`, `Changes.between_jewels`, `Changes.between_settings`: what is not
  marked is the same
* `Changes.Covers.complete`: a record that covers the comparison misses nothing
-/

namespace Loadout

variable {ν : Type}

/-! ### Settings that comparison does not tell apart -/

/-- Enemies all of whose numbers pass the equality test, and which are otherwise the same. -/
structure EnemySettings.Matches [BEq ν] (e e' : EnemySettings ν) : Prop where
  level : e.level = e'.level
  isBoss : e.isBoss = e'.isBoss
  fireResist : (e.fireResist == e'.fireResist) = true
  coldResist : (e.coldResist == e'.coldResist) = true
  lightningResist : (e.lightningResist == e'.lightningResist) = true
  chaosResist : (e.chaosResist == e'.chaosResist) = true
  armour : (e.armour == e'.armour) = true
  evasion : (e.evasion == e'.evasion) = true

/-- Enemies that differ at most in numbers that comparison does not tell apart. -/
structure EnemySettings.Alike [BEq ν] (e e' : EnemySettings ν) : Prop where
  level : e.level = e'.level
  isBoss : e.isBoss = e'.isBoss
  fireResist : Scalar.Alike e.fireResist e'.fireResist
  coldResist : Scalar.Alike e.coldResist e'.coldResist
  lightningResist : Scalar.Alike e.lightningResist e'.lightningResist
  chaosResist : Scalar.Alike e.chaosResist e'.chaosResist
  armour : Scalar.Alike e.armour e'.armour
  evasion : Scalar.Alike e.evasion e'.evasion

namespace EnemySettings

variable [BEq ν]

theorem Alike.refl (e : EnemySettings ν) : e.Alike e :=
  ⟨rfl, rfl, .refl _, .refl _, .refl _, .refl _, .refl _, .refl _⟩

theorem Alike.trans [PartialEquivBEq ν] {e e' e'' : EnemySettings ν} (h : e.Alike e')
    (h' : e'.Alike e'') : e.Alike e'' where
  level := h.level.trans h'.level
  isBoss := h.isBoss.trans h'.isBoss
  fireResist := h.fireResist.trans h'.fireResist
  coldResist := h.coldResist.trans h'.coldResist
  lightningResist := h.lightningResist.trans h'.lightningResist
  chaosResist := h.chaosResist.trans h'.chaosResist
  armour := h.armour.trans h'.armour
  evasion := h.evasion.trans h'.evasion

theorem beq_iff_matches {e e' : EnemySettings ν} : (e == e') = true ↔ e.Matches e' := by
  obtain ⟨level, isBoss, fire, cold, lightning, chaos, armour, evasion⟩ := e
  obtain ⟨level', isBoss', fire', cold', lightning', chaos', armour', evasion'⟩ := e'
  simp only [BEq.beq, instBEqEnemySettings.beq, Bool.and_eq_true]
  constructor
  · rintro ⟨hlevel, hboss, hfire, hcold, hlightning, hchaos, harmour, hevasion⟩
    exact ⟨by simpa using hlevel, by simpa using hboss, hfire, hcold, hlightning, hchaos, harmour,
      hevasion⟩
  · rintro ⟨hlevel, hboss, hfire, hcold, hlightning, hchaos, harmour, hevasion⟩
    exact ⟨by simpa using hlevel, by simpa using hboss, hfire, hcold, hlightning, hchaos, harmour,
      hevasion⟩

theorem Matches.alike {e e' : EnemySettings ν} (h : e.Matches e') : e.Alike e' :=
  ⟨h.level, h.isBoss, .inr h.fireResist, .inr h.coldResist, .inr h.lightningResist,
    .inr h.chaosResist, .inr h.armour, .inr h.evasion⟩

section Equivalence

variable [PartialEquivBEq ν] {e e' e'' : EnemySettings ν}

theorem Matches.symm (h : e.Matches e') : e'.Matches e where
  level := h.level.symm
  isBoss := h.isBoss.symm
  fireResist := PartialEquivBEq.symm h.fireResist
  coldResist := PartialEquivBEq.symm h.coldResist
  lightningResist := PartialEquivBEq.symm h.lightningResist
  chaosResist := PartialEquivBEq.symm h.chaosResist
  armour := PartialEquivBEq.symm h.armour
  evasion := PartialEquivBEq.symm h.evasion

theorem Matches.trans (h : e.Matches e') (h' : e'.Matches e'') : e.Matches e'' where
  level := h.level.trans h'.level
  isBoss := h.isBoss.trans h'.isBoss
  fireResist := PartialEquivBEq.trans h.fireResist h'.fireResist
  coldResist := PartialEquivBEq.trans h.coldResist h'.coldResist
  lightningResist := PartialEquivBEq.trans h.lightningResist h'.lightningResist
  chaosResist := PartialEquivBEq.trans h.chaosResist h'.chaosResist
  armour := PartialEquivBEq.trans h.armour h'.armour
  evasion := PartialEquivBEq.trans h.evasion h'.evasion

end Equivalence

end EnemySettings

/-- Resolved settings with the same enemy up to numbers that comparison does not tell apart, and
otherwise the same. -/
structure ResolvedSettings.Alike [BEq ν] (s s' : ResolvedSettings ν) : Prop where
  enemy : s.enemy.Alike s'.enemy
  rest : { s with enemy := s'.enemy } = s'

namespace ResolvedSettings

variable [BEq ν]

theorem Alike.refl (s : ResolvedSettings ν) : s.Alike s :=
  ⟨.refl _, rfl⟩

theorem Alike.trans [PartialEquivBEq ν] {s s' s'' : ResolvedSettings ν} (h : s.Alike s')
    (h' : s'.Alike s'') : s.Alike s'' :=
  ⟨h.enemy.trans h'.enemy, by rw [← h'.rest, ← h.rest]⟩

theorem Alike.apply_eq {s s' : ResolvedSettings ν} (h : s.Alike s') (ctx : Context ν) :
    s.apply ctx = s'.apply ctx := by
  rw [← h.rest]
  rfl

end ResolvedSettings

/-- Settings with enemies that match, and otherwise the same. -/
structure Settings.Matches [BEq ν] (s s' : Settings ν) : Prop where
  enemy : s.enemy.Matches s'.enemy
  rest : { s with enemy := s'.enemy } = s'

/-- Settings with the same enemy up to numbers that comparison does not tell apart, and otherwise
the same. -/
structure Settings.Alike [BEq ν] (s s' : Settings ν) : Prop where
  enemy : s.enemy.Alike s'.enemy
  rest : { s with enemy := s'.enemy } = s'

namespace Settings

variable [BEq ν]

theorem Alike.refl (s : Settings ν) : s.Alike s :=
  ⟨.refl _, rfl⟩

theorem beq_iff_matches {s s' : Settings ν} : (s == s') = true ↔ s.Matches s' := by
  obtain ⟨power, frenzy, endurance, lowLife, fullLife, lowMana, fullMana, lowShield, fullShield,
    enemy, conditions, lines⟩ := s
  obtain ⟨power', frenzy', endurance', lowLife', fullLife', lowMana', fullMana', lowShield',
    fullShield', enemy', conditions', lines'⟩ := s'
  change instBEqSettings.beq _ _ = true ↔ _
  simp only [instBEqSettings.beq, Bool.and_eq_true, beq_iff_eq]
  constructor
  · rintro ⟨rfl, rfl, rfl, rfl, rfl, rfl, rfl, rfl, rfl, henemy, rfl, rfl⟩
    exact ⟨EnemySettings.beq_iff_matches.mp henemy, rfl⟩
  · rintro ⟨henemy, hrest⟩
    cases hrest
    exact ⟨rfl, rfl, rfl, rfl, rfl, rfl, rfl, rfl, rfl, EnemySettings.beq_iff_matches.mpr henemy,
      rfl, rfl⟩

theorem alike_of_beq {s s' : Settings ν} (h : (s == s') = true) : s.Alike s' :=
  ⟨(beq_iff_matches.mp h).enemy.alike, (beq_iff_matches.mp h).rest⟩

section Equivalence

variable [PartialEquivBEq ν] {s s' s'' : Settings ν}

theorem Matches.symm (h : s.Matches s') : s'.Matches s :=
  ⟨h.enemy.symm, by rw [← h.rest]⟩

theorem Matches.trans (h : s.Matches s') (h' : s'.Matches s'') : s.Matches s'' :=
  ⟨h.enemy.trans h'.enemy, by rw [← h'.rest, ← h.rest]⟩

end Equivalence

theorem resolve_alike_of_beq {s s' : Settings ν} (h : (s == s') = true) :
    s.resolve.Alike s'.resolve := by
  obtain ⟨henemy, hrest⟩ := alike_of_beq h
  refine ⟨henemy, ?_⟩
  rw [← hrest]
  rfl

end Settings

/-! ### Records of changes -/

namespace ChangeSet

variable {κ : Type} [Ord κ] [Std.TransOrd κ]

/-- The set of certain members contains those and no others. -/
theorem contains_ofList [Std.LawfulEqOrd κ] [DecidableEq κ] (keys : List κ) (key : κ) :
    (ofList keys).contains key = true ↔ key ∈ keys := by
  cases keys with
  | nil => simp [ofList, contains]
  | cons first rest =>
    rw [ofList, List.isEmpty_cons, if_neg Bool.false_ne_true, contains,
      Std.ExtTreeSet.contains_ofList, List.contains_iff_mem]

theorem not_contains_of_isClean {s : ChangeSet κ} (h : s.isClean = true) (key : κ) :
    s.contains key = false := by
  cases s with
  | nothing => rfl
  | everything => simp [isClean] at h
  | members keys =>
    simp only [isClean, Std.ExtTreeSet.isEmpty_iff] at h
    simp [contains, h]

end ChangeSet

namespace Changes

/-- A key differs between two maps exactly when they hold different entries for it. -/
theorem contains_differingKeys {κ α : Type} [Ord κ] [Std.TransOrd κ] [Std.LawfulEqOrd κ]
    [DecidableEq κ] [DecidableEq α] (old new : Std.ExtTreeMap κ α) (key : κ) :
    (ChangeSet.ofList (differingKeys old new)).contains key = true ↔ old[key]? ≠ new[key]? := by
  rw [ChangeSet.contains_ofList, differingKeys, List.mem_filter, decide_eq_true_iff]
  constructor
  · exact And.right
  · refine fun h => ⟨?_, h⟩
    rw [List.mem_append, Std.ExtTreeMap.mem_keys, Std.ExtTreeMap.mem_keys]
    by_contra hkey
    obtain ⟨hold, hnew⟩ := not_or.mp hkey
    exact h (by rw [Std.ExtTreeMap.getElem?_eq_none hold, Std.ExtTreeMap.getElem?_eq_none hnew])

variable [Scalar ν] {old new : Build ν}

/-- A slot that is not marked holds the same item, or none in both builds. -/
theorem between_items {slot : Slot} (h : ¬ (between old new).items.contains slot = true) :
    old.item? slot = new.item? slot := by
  by_contra hne
  exact h ((contains_differingKeys old.items new.items slot).mpr hne)

/-- Where no socket is marked the jewels are the same. -/
theorem between_jewels (h : ∀ socket, ¬ (between old new).jewels.contains socket = true) :
    old.jewels = new.jewels := by
  refine Std.ExtTreeMap.ext_getElem? fun socket => ?_
  by_contra hne
  exact h socket ((contains_differingKeys old.jewels new.jewels socket).mpr hne)

theorem between_skills (h : (between old new).skills = false) : old.skills = new.skills := by
  simpa [between] using h

theorem between_weaponSet (h : (between old new).weaponSet = false) :
    old.activeSet = new.activeSet := by
  simpa [between] using h

/-- Where the settings are not marked they resolve alike. -/
theorem between_settings (h : (between old new).settings = false) :
    old.settings.resolve.Alike new.settings.resolve := by
  refine Settings.resolve_alike_of_beq ?_
  simpa [between, bne] using h

/-- Where neither the passives nor a socket are marked, the passive layer is the same: it reads
the class, the nodes, the masteries and the jewels. -/
theorem between_passives (h : (between old new).passives = false)
    (hjewels : ∀ socket, ¬ (between old new).jewels.contains socket = true) (g : Grammar ν)
    (tree : Tree ν) : Layer.passives g tree old = Layer.passives g tree new := by
  simp only [between, Bool.or_eq_false_iff, bne_eq_false_iff_eq] at h
  obtain ⟨⟨⟨hclass, -⟩, hnodes⟩, hmasteries⟩ := h
  simp only [Layer.passives, hclass, hnodes, hmasteries, between_jewels hjewels]

/-- All that one record marks is marked in another, which may mark more. -/
structure Covers (known changed : Changes) : Prop where
  passives : changed.passives = true → known.passives = true
  jewels : ∀ socket, changed.jewels.contains socket = true →
    known.jewels.contains socket = true
  items : ∀ slot, changed.items.contains slot = true → known.items.contains slot = true
  skills : changed.skills = true → known.skills = true
  settings : changed.settings = true → known.settings = true
  weaponSet : changed.weaponSet = true → known.weaponSet = true

theorem Covers.refl (c : Changes) : c.Covers c :=
  ⟨id, fun _ => id, fun _ => id, id, id, id⟩

theorem covers_everything (c : Changes) : everything.Covers c :=
  ⟨fun _ => rfl, fun _ _ => rfl, fun _ _ => rfl, fun _ => rfl, fun _ => rfl, fun _ => rfl⟩

/-- A record misses nothing of what differs between two builds: whatever part it leaves unmarked
reads the same in both. -/
structure Complete (known : Changes) (g : Grammar ν) (tree : Tree ν) (old new : Build ν) :
    Prop where
  passives : known.passives = false → known.jewels.isClean = true →
    Layer.passives g tree old = Layer.passives g tree new
  items : ∀ slot, ¬ known.items.contains slot = true → old.item? slot = new.item? slot
  skills : known.skills = false → old.skills = new.skills
  settings : known.settings = false → old.settings.resolve.Alike new.settings.resolve
  weaponSet : known.weaponSet = false → old.activeSet = new.activeSet

theorem unmarked_of_cover {found known : Bool} (hcover : found = true → known = true)
    (hknown : known = false) : found = false :=
  Bool.eq_false_iff.mpr (mt hcover (Bool.eq_false_iff.mp hknown))

/-- A record that covers the comparison of two builds misses nothing. -/
theorem Covers.complete {known : Changes} (h : known.Covers (between old new)) (g : Grammar ν)
    (tree : Tree ν) : known.Complete g tree old new where
  passives hp hj := by
    have hclean (socket : Nat) : ¬ (between old new).jewels.contains socket = true :=
      mt (h.jewels socket) (Bool.eq_false_iff.mp (ChangeSet.not_contains_of_isClean hj socket))
    exact between_passives (unmarked_of_cover h.passives hp) hclean g tree
  items slot hs := between_items (mt (h.items slot) hs)
  skills hs := between_skills (unmarked_of_cover h.skills hs)
  settings hs := between_settings (unmarked_of_cover h.settings hs)
  weaponSet hw := between_weaponSet (unmarked_of_cover h.weaponSet hw)

end Changes

end Loadout
