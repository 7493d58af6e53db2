import Loadout.Proofs.Environment.Rebuild

/-!
# What a rebuild renews

A rebuild goes by its record of changes, whether the record is accurate or not. It builds anew what
the record marks and takes over everything else as it is: the passive layer follows the passives
and the jewels, the resolved settings and the enemy follow the settings, and each slot follows
its own mark. The player's store is always composed anew, of the layers that came out. A record
without marks leaves all but the version as it was.

A store carries the version in which it was built. No operation makes a store that is newer than
its environment, so a store carries the version of a rebuild exactly when the rebuild built it.

## Main definitions

* `Renewal`: what is marked is new, and what is not is the earlier
* `Layers.Renews`, `Environment.Renews`: what a rebuild makes of an earlier environment
* `Environment.Coherent`: the stored attributes are those of the player's store
* `Environment.Dated`: no store is newer than the environment
* `Layers.Stamped`: the marked stores carry the version, and no others do
* `Environment.Produced`: the environments that any operations produce, in any order

## Main results

* `GameData.renews_rebuild`, `GameData.layers_rebuild`: what a rebuild builds anew and keeps
* `Environment.Produced.dated`: no operation makes a store newer than its environment
* `GameData.rebuild_touches`: a rebuild touches what the record marks and nothing else
-/

namespace Loadout

variable {ν : Type}

/-! ### New or kept -/

/-- What is taken is the fresh one if it is marked, and otherwise the earlier one. -/
structure Renewal {α : Type} (marked : Prop) (fresh earlier taken : α) : Prop where
  fresh : marked → taken = fresh
  kept : ¬ marked → taken = earlier

namespace Renewal

variable {α : Type} {marked : Prop}

theorem of_ite [Decidable marked] (fresh earlier : α) :
    Renewal marked fresh earlier (if marked then fresh else earlier) :=
  ⟨fun h => if_pos h, fun h => if_neg h⟩

theorem congr {marked' : Prop} {fresh earlier taken : α} (h : Renewal marked fresh earlier taken)
    (hiff : marked ↔ marked') : Renewal marked' fresh earlier taken :=
  ⟨fun hmarked => h.fresh (hiff.mpr hmarked), fun hnot => h.kept (mt hiff.mp hnot)⟩

/-- A store is not newer than a version, if neither the fresh one nor the earlier one is. -/
theorem since_le {version : Nat} {fresh earlier taken : BuiltStore ν}
    (h : Renewal marked fresh earlier taken) (hfresh : fresh.since ≤ version)
    (hearlier : earlier.since ≤ version) : taken.since ≤ version := by
  by_cases hmarked : marked
  · rwa [h.fresh hmarked]
  · rwa [h.kept hmarked]

end Renewal

theorem ChangeSet.isClean_eq_false_iff {κ : Type} [Ord κ] [Std.TransOrd κ] [Nonempty κ]
    {s : ChangeSet κ} : s.isClean = false ↔ ∃ key, s.contains key = true := by
  constructor
  · intro h
    cases s with
    | nothing => exact absurd h.symm Bool.false_ne_true
    | everything => exact ⟨Classical.arbitrary κ, rfl⟩
    | members keys =>
      have hne : keys ≠ ∅ := fun hempty =>
        Bool.eq_false_iff.mp h (Std.ExtTreeSet.isEmpty_iff.mpr hempty)
      rw [Ne, Std.ExtTreeSet.eq_empty_iff_forall_not_mem, not_forall] at hne
      obtain ⟨key, hkey⟩ := hne
      exact ⟨key, Std.ExtTreeSet.contains_iff_mem.mpr (not_not.mp hkey)⟩
  · rintro ⟨key, hkey⟩
    refine Bool.eq_false_iff.mpr fun hclean => ?_
    rw [not_contains_of_isClean hclean key] at hkey
    exact Bool.false_ne_true hkey

/-! ### The stores of the worn items -/

/-- The stores of the items that are worn with a weapon set, in order of slot. -/
structure Layers.Worn (l : Layers ν) (active : WeaponSet) (worn : List (Slot × BuiltStore ν)) :
    Prop where
  ordered : worn.Pairwise fun a b => compare a.1 b.1 = .lt
  mem_iff : ∀ slot built, (slot, built) ∈ worn ↔ slot.set = active ∧ l.items[slot]? = some built

theorem Layers.exists_worn (l : Layers ν) (active : WeaponSet) :
    ∃ worn, l.Worn active worn ∧ l.playerParts active =
      l.passives.store :: worn.map (·.2.store) ++ [l.skills.store, l.settings.store] := by
  refine ⟨l.items.toList.filter fun entry => entry.1.set == active, ⟨?_, fun slot built => ?_⟩, rfl⟩
  · exact l.items.ordered_keys_toList.filter _
  · rw [List.mem_filter, Std.ExtTreeMap.mem_toList_iff_getElem?_eq_some, beq_iff_eq]
    exact and_comm

/-! ### What a rebuild makes of an earlier environment -/

section Renews

variable [Scalar ν] (data : GameData ν)

/-- The stored attributes are those of the player's store in the situation of the settings. -/
def Environment.Coherent (e : Environment ν) : Prop :=
  e.attributes = .inStore e.player.store e.context

theorem Layers.coherent_assemble (l : Layers ν) (b : Build ν) (settings : ResolvedSettings ν)
    (version : Nat) (changes : Changes) : (l.assemble b settings version changes).Coherent := by
  rw [Environment.Coherent, Environment.context, Layers.assemble_eq]

/-- Layers come from earlier ones by building anew for a build what a record marks and nothing
else. -/
structure Layers.Renews (old : Layers ν) (b : Build ν) (known : Changes) (version : Nat)
    (l : Layers ν) : Prop where
  passives : Renewal (known.passives = true ∨ ∃ socket, known.jewels.contains socket = true)
    (data.passives b version) old.passives l.passives
  items : ∀ slot, Renewal (known.items.contains slot = true)
    ((b.item? slot).map fun worn => data.item slot worn version) old.items[slot]? l.items[slot]?
  skills : Renewal (known.skills = true) (data.skills b version) old.skills l.skills
  settings : Renewal (known.settings = true)
    (data.settings b.settings.resolve version) old.settings l.settings
  enemy : Renewal (known.settings = true) (.enemy b.settings.resolve version) old.enemy l.enemy

/-- An environment comes from an earlier one by building anew what a record marks and nothing else,
and the player's store and the attributes come from its layers. -/
structure Environment.Renews (previous : Environment ν) (b : Build ν) (known : Changes)
    (e : Environment ν) : Prop where
  build : e.build = b
  changes : e.changes = known
  layers : previous.layers.Renews data b known e.version e.layers
  resolved : Renewal (known.settings = true) b.settings.resolve previous.settings e.settings
  player : ∃ worn, e.layers.Worn b.activeSet worn ∧ e.player =
    ⟨.compose (e.layers.passives.store :: worn.map (·.2.store) ++
      [e.layers.skills.store, e.layers.settings.store]), e.version⟩
  attributes : e.Coherent

variable {data} {previous : Environment ν} {b : Build ν} {known : Changes}

/-- A rebuild by a record without marks keeps the earlier environment under a new version. -/
theorem GameData.rebuild_of_isClean (h : known.isClean = true) :
    data.rebuild b previous known =
      { previous with version := previous.version + 1, changes := .nothing } :=
  if_pos h

theorem GameData.version_rebuild (b : Build ν) (previous : Environment ν) (known : Changes) :
    (data.rebuild b previous known).version = previous.version + 1 := by
  rw [rebuild]
  split
  · rfl
  · rw [Layers.assemble_eq]

/-- Layers that are all kept renew what a record without marks marks. -/
theorem Layers.renews_of_isClean (h : known.isClean = true) (l : Layers ν) (version : Nat) :
    l.Renews data b known version l := by
  simp only [Changes.isClean, Bool.and_eq_true, Bool.not_eq_true'] at h
  obtain ⟨⟨⟨⟨⟨hpassives, hjewels⟩, hitems⟩, hskills⟩, hsettings⟩, -⟩ := h
  have kept {α : Type} {marked : Prop} {fresh taken : α} (hnot : ¬ marked) :
      Renewal marked fresh taken taken :=
    ⟨fun hmarked => absurd hmarked hnot, fun _ => rfl⟩
  refine ⟨kept ?_, fun slot => kept ?_, kept ?_, kept ?_, kept ?_⟩
  · rintro (hmarked | ⟨socket, hmarked⟩)
    · exact Bool.eq_false_iff.mp hpassives hmarked
    · exact Bool.eq_false_iff.mp (ChangeSet.not_contains_of_isClean hjewels socket) hmarked
  · exact Bool.eq_false_iff.mp (ChangeSet.not_contains_of_isClean hitems slot)
  · exact Bool.eq_false_iff.mp hskills
  · exact Bool.eq_false_iff.mp hsettings
  · exact Bool.eq_false_iff.mp hsettings

/-- A rebuild by a record with a mark builds anew what the record marks. -/
theorem GameData.renews_rebuild (h : known.isClean = false) :
    previous.Renews data b known (data.rebuild b previous known) := by
  rw [rebuild, if_neg (Bool.eq_false_iff.mp h)]
  rw [Layers.assemble_eq]
  refine ⟨rfl, rfl, ⟨?_, fun slot => ?_, .of_ite _ _, ?_, ?_⟩, .of_ite _ _, ?_, ?_⟩
  · refine (Renewal.of_ite _ _).congr ?_
    rw [Bool.or_eq_true, Bool.not_eq_true', ChangeSet.isClean_eq_false_iff]
  · dsimp only
    rw [getElem?_refreshItems]
    exact .of_ite _ _
  · -- The settings are resolved anew exactly when their layer is built anew.
    refine ⟨fun hmarked => ?_, fun hnot => if_neg hnot⟩
    simp only [if_pos hmarked]
  · refine ⟨fun hmarked => ?_, fun hnot => if_neg hnot⟩
    simp only [if_pos hmarked]
  · obtain ⟨worn, hworn, hparts⟩ := Layers.exists_worn _ b.activeSet
    exact ⟨worn, hworn, by rw [hparts]⟩
  · rw [Environment.Coherent, Environment.context]

/-- Whatever the record, a rebuild builds anew the layers that the record marks. -/
theorem GameData.layers_rebuild (b : Build ν) (previous : Environment ν) (known : Changes) :
    previous.layers.Renews data b known (data.rebuild b previous known).version
      (data.rebuild b previous known).layers := by
  cases hclean : known.isClean with
  | true =>
    rw [rebuild_of_isClean hclean]
    exact Layers.renews_of_isClean hclean previous.layers _
  | false => exact (renews_rebuild hclean).layers

end Renews

/-! ### Versions of stores -/

/-- No layer is newer than a version. -/
structure Layers.Dated (l : Layers ν) (version : Nat) : Prop where
  passives : l.passives.since ≤ version
  items : ∀ (slot : Slot) (built : BuiltStore ν),
    l.items[slot]? = some built → built.since ≤ version
  skills : l.skills.since ≤ version
  settings : l.settings.since ≤ version
  enemy : l.enemy.since ≤ version

/-- No store of an environment is newer than the environment. -/
structure Environment.Dated (e : Environment ν) : Prop where
  layers : e.layers.Dated e.version
  player : e.player.since ≤ e.version

section Dated

variable [Scalar ν] {data : GameData ν} {b : Build ν} {known : Changes} {old l : Layers ν}
  {version : Nat}

/-- The store in a slot is a fresh one where the slot is marked, and otherwise an earlier one. -/
theorem Layers.Renews.item (h : old.Renews data b known version l) {slot : Slot}
    {built : BuiltStore ν} (hbuilt : l.items[slot]? = some built) :
    known.items.contains slot = true ∧ built.since = version ∨
      ¬ known.items.contains slot = true ∧ old.items[slot]? = some built := by
  by_cases hmarked : known.items.contains slot = true
  · rw [(h.items slot).fresh hmarked] at hbuilt
    obtain ⟨worn, -, rfl⟩ := Option.map_eq_some_iff.mp hbuilt
    exact .inl ⟨hmarked, rfl⟩
  · rw [(h.items slot).kept hmarked] at hbuilt
    exact .inr ⟨hmarked, hbuilt⟩

/-- Layers renewed in a version are not newer, if the earlier ones are not. -/
theorem Layers.Renews.dated (h : old.Renews data b known version l) (hold : old.Dated version) :
    l.Dated version where
  passives := h.passives.since_le (Nat.le_refl _) hold.passives
  items slot built hbuilt := by
    rcases h.item hbuilt with ⟨-, hsince⟩ | ⟨-, hearlier⟩
    · exact Nat.le_of_eq hsince
    · exact hold.items slot built hearlier
  skills := h.skills.since_le (Nat.le_refl _) hold.skills
  settings := h.settings.since_le (Nat.le_refl _) hold.settings
  enemy := h.enemy.since_le (Nat.le_refl _) hold.enemy

theorem Environment.Renews.since_player {previous e : Environment ν}
    (h : previous.Renews data b known e) : e.player.since = e.version := by
  obtain ⟨worn, -, hplayer⟩ := h.player
  rw [hplayer]

omit [Scalar ν] in
theorem Layers.Dated.succ (h : l.Dated version) : l.Dated (version + 1) where
  passives := Nat.le_succ_of_le h.passives
  items slot built hbuilt := Nat.le_succ_of_le (h.items slot built hbuilt)
  skills := Nat.le_succ_of_le h.skills
  settings := Nat.le_succ_of_le h.settings
  enemy := Nat.le_succ_of_le h.enemy

omit [Scalar ν] in
theorem Layers.Dated.set_passives (h : l.Dated version) {built : BuiltStore ν}
    (hbuilt : built.since ≤ version) : Layers.Dated { l with passives := built } version :=
  ⟨hbuilt, h.items, h.skills, h.settings, h.enemy⟩

omit [Scalar ν] in
theorem Layers.Dated.set_items (h : l.Dated version) {stores : Std.ExtTreeMap Slot (BuiltStore ν)}
    (hstores : ∀ (slot : Slot) (built : BuiltStore ν),
      stores[slot]? = some built → built.since ≤ version) :
    Layers.Dated { l with items := stores } version :=
  ⟨h.passives, hstores, h.skills, h.settings, h.enemy⟩

theorem Layers.dated_assemble (h : l.Dated version) (b : Build ν) (settings : ResolvedSettings ν)
    (changes : Changes) : (l.assemble b settings version changes).Dated := by
  rw [Layers.assemble_eq]
  exact ⟨h, Nat.le_refl _⟩

variable {previous : Environment ν}

theorem GameData.dated_full (b : Build ν) (previous : Option (Environment ν)) :
    (data.full b previous).Dated := by
  refine Layers.dated_assemble ⟨?_, fun slot built hbuilt => ?_, ?_, ?_, ?_⟩ b _ _
  case refine_2 =>
    simp only [items, Std.ExtTreeMap.getElem?_map, Option.map_eq_some_iff] at hbuilt
    obtain ⟨worn, -, rfl⟩ := hbuilt
    exact Nat.le_refl _
  all_goals exact Nat.le_refl _

theorem GameData.dated_rebuild (h : previous.Dated) (b : Build ν) (known : Changes) :
    (data.rebuild b previous known).Dated := by
  have hearlier : previous.layers.Dated (data.rebuild b previous known).version := by
    rw [version_rebuild]
    exact h.layers.succ
  refine ⟨(data.layers_rebuild b previous known).dated hearlier, ?_⟩
  cases hclean : known.isClean with
  | true =>
    rw [rebuild_of_isClean hclean]
    exact Nat.le_succ_of_le h.player
  | false =>
    have hrenews : previous.Renews data b known (data.rebuild b previous known) :=
      renews_rebuild hclean
    exact Nat.le_of_eq hrenews.since_player

theorem GameData.dated_equip (h : previous.Dated) (slot : Slot) (worn : Option Item) :
    (data.equip previous slot worn).Dated := by
  unfold equip
  refine Layers.dated_assemble (h.layers.succ.set_items fun other built hbuilt => ?_) _ _ _
  rw [getElem?_refreshSlot] at hbuilt
  split at hbuilt
  · obtain ⟨worn, -, rfl⟩ := Option.map_eq_some_iff.mp hbuilt
    exact Nat.le_refl _
  · exact h.layers.succ.items other built hbuilt

theorem GameData.dated_reallocate (h : previous.Dated) (added removed : List Nat) :
    (data.reallocate previous added removed).Dated := by
  unfold reallocate
  exact Layers.dated_assemble (h.layers.succ.set_passives (Nat.le_refl _)) _ _ _

theorem GameData.dated_socket (h : previous.Dated) (id : Nat) (jewel : Option Item) :
    (data.socket previous id jewel).Dated := by
  unfold socket
  exact Layers.dated_assemble (h.layers.succ.set_passives (Nat.le_refl _)) _ _ _

end Dated

/-! ### Every operation -/

variable [Scalar ν]

/-- The environments that operations produce one after the other, each with its own game data. The
records of changes need not be accurate. -/
inductive Environment.Produced : Environment ν → Prop
  | full (data : GameData ν) (b : Build ν) (previous : Option (Environment ν)) :
      Produced (data.full b previous)
  | rebuilt {e : Environment ν} (h : Produced e) (data : GameData ν) (b : Build ν)
      (known : Changes) : Produced (data.rebuild b e known)
  | equipped {e : Environment ν} (h : Produced e) (data : GameData ν) (slot : Slot)
      (worn : Option Item) : Produced (data.equip e slot worn)
  | reallocated {e : Environment ν} (h : Produced e) (data : GameData ν)
      (added removed : List Nat) : Produced (data.reallocate e added removed)
  | socketed {e : Environment ν} (h : Produced e) (data : GameData ν) (id : Nat)
      (jewel : Option Item) : Produced (data.socket e id jewel)

theorem Environment.Produced.setup (data : GameData ν) (b : Build ν)
    (earlier : Option (Environment ν × Option Changes))
    (h : ∀ entry ∈ earlier, entry.1.Produced) : (data.setup b earlier).Produced := by
  cases earlier with
  | none => exact .full data b none
  | some entry => exact .rebuilt (h entry rfl) data b _

/-- No operation makes a store that is newer than its environment. -/
theorem Environment.Produced.dated {e : Environment ν} (h : e.Produced) : e.Dated := by
  induction h with
  | full data b previous => exact data.dated_full b previous
  | rebuilt _ data b known ih => exact data.dated_rebuild ih b known
  | equipped _ data slot worn ih => exact data.dated_equip ih slot worn
  | reallocated _ data added removed ih => exact data.dated_reallocate ih added removed
  | socketed _ data id jewel ih => exact data.dated_socket ih id jewel

end Loadout
