import Loadout.Proofs.Environment.Reflection

/-!
# Rebuilding gives what building from scratch gives

An environment can be made from an earlier one in several ways that keep some of its layers.
Each of them keeps only layers that the new build asks for: a layer is kept when nothing that
it reads has changed, and the comparison of builds sees everything that any layer reads. So
every environment of a run agrees with a full build of the build that was asked for.

## Main definitions

* `GameData.Made`: the environments that runs produce, with the build that was asked for

## Main results

* `GameData.reflects_rebuild`: a rebuild by a record that covers the changes
* `GameData.reflects_equip`, `GameData.reflects_reallocate`, `GameData.reflects_socket`: the
  single edits
* `GameData.Made.agrees_full`: every environment of a run agrees with a full build
-/

namespace Loadout

variable {ν : Type} [Scalar ν] {data : GameData ν}

/-! ### Keeping layers -/

theorem GameData.getElem?_refreshSlot (build : Build ν) (version : Nat)
    (stores : Std.ExtTreeMap Slot (BuiltStore ν)) (slot other : Slot) :
    (data.refreshSlot build version stores slot)[other]? =
      if other = slot then (build.item? other).map fun worn => data.item other worn version
      else stores[other]? := by
  unfold refreshSlot
  by_cases hother : other = slot
  · subst hother
    rw [if_pos rfl]
    cases hitem : build.item? other with
    | none => simp only [Std.ExtTreeMap.getElem?_erase_self, Option.map_none]
    | some worn => simp only [Std.ExtTreeMap.getElem?_insert_self, Option.map_some]
  · have hne : compare slot other ≠ .eq :=
      fun h => hother (Std.LawfulEqOrd.eq_of_compare h).symm
    rw [if_neg hother]
    cases hitem : build.item? slot with
    | none => simp only [Std.ExtTreeMap.getElem?_erase, if_neg hne]
    | some worn => simp only [Std.ExtTreeMap.getElem?_insert, if_neg hne]

theorem GameData.getElem?_refreshSlots (build : Build ν) (version : Nat)
    (stores : Std.ExtTreeMap Slot (BuiltStore ν)) (slots : List Slot) (other : Slot) :
    (slots.foldl (data.refreshSlot build version) stores)[other]? =
      if other ∈ slots then (build.item? other).map fun worn => data.item other worn version
      else stores[other]? := by
  induction slots generalizing stores with
  | nil => rfl
  | cons slot slots ih =>
    rw [List.foldl_cons, ih, getElem?_refreshSlot]
    by_cases hother : other ∈ slots
    · simp only [hother, List.mem_cons, or_true, if_true]
    · by_cases hslot : other = slot
      · simp only [hslot, List.mem_cons, true_or, if_true, ite_self]
      · simp only [hother, hslot, List.mem_cons, or_self, if_false]

theorem GameData.getElem?_refreshItems (build : Build ν) (version : Nat)
    (stores : Std.ExtTreeMap Slot (BuiltStore ν)) (changed : ChangeSet Slot) (other : Slot) :
    (data.refreshItems build version stores changed)[other]? =
      if changed.contains other then
        (build.item? other).map fun worn => data.item other worn version
      else stores[other]? := by
  cases changed with
  | nothing => rfl
  | everything => simp [refreshItems, items, ChangeSet.contains, Build.item?]
  | members slots =>
    rw [refreshItems, getElem?_refreshSlots]
    simp only [Std.ExtTreeSet.mem_toList, ChangeSet.contains, Std.ExtTreeSet.contains_iff_mem]

/-- Stores of items that are right for one build become right for another once every slot in
which the builds differ is built anew. -/
theorem Layers.itemStores_of_renewed {old new : Build ν} {kept l : Layers ν}
    (hkept : kept.itemStores =
      old.items.map fun slot worn => .ofList (Layer.item data.grammar slot worn))
    (renewed : Slot → Prop) [DecidablePred renewed] (version : Nat)
    (hitems : ∀ slot, l.items[slot]? = if renewed slot then
      (new.item? slot).map fun worn => data.item slot worn version else kept.items[slot]?)
    (hsame : ∀ slot, ¬ renewed slot → old.item? slot = new.item? slot) :
    l.itemStores = new.items.map fun slot worn => .ofList (Layer.item data.grammar slot worn) := by
  refine Std.ExtTreeMap.ext_getElem? fun slot => ?_
  rw [itemStores, Std.ExtTreeMap.getElem?_map, Std.ExtTreeMap.getElem?_map, hitems]
  by_cases hslot : renewed slot
  · rw [if_pos hslot, Option.map_map]
    rfl
  · have hget := congrArg (·[slot]?) hkept
    simp only [itemStores, Std.ExtTreeMap.getElem?_map] at hget
    rw [if_neg hslot, hget]
    exact congrArg (Option.map _) (hsame slot hslot)

theorem Environment.Reflects.of_isClean [PartialEquivBEq ν] {e : Environment ν}
    {old new : Build ν} {known : Changes} (h : e.Reflects data old)
    (hknown : known.Complete data.grammar data.tree old new) (hclean : known.isClean = true) :
    e.Reflects data new := by
  simp only [Changes.isClean, Bool.and_eq_true, Bool.not_eq_true'] at hclean
  obtain ⟨⟨⟨⟨⟨hp, hj⟩, hi⟩, hskills⟩, hsettings⟩, hweapon⟩ := hclean
  have hitems : old.items = new.items := by
    refine Std.ExtTreeMap.ext_getElem? fun slot => hknown.items slot ?_
    simp only [ChangeSet.not_contains_of_isClean hi slot, Bool.false_eq_true, not_false_iff]
  refine ⟨⟨?_, ?_, ?_, h.layers.settings, h.layers.enemy, ?_⟩, ?_, h.attributes⟩
  · rw [h.layers.passives, hknown.passives hp hj]
  · rw [h.layers.items, hitems]
  · rw [h.layers.skills, hknown.skills hskills]
  · exact h.layers.resolved.trans (hknown.settings hsettings)
  · rw [h.player, hknown.weaponSet hweapon]

/-- A rebuild reflects the new build when its record misses nothing. -/
theorem GameData.reflects_rebuild [PartialEquivBEq ν] {previous : Environment ν} {b : Build ν}
    {known : Changes} (h : previous.Reflects data previous.build)
    (hknown : known.Complete data.grammar data.tree previous.build b) :
    (data.rebuild b previous known).Reflects data b := by
  rw [rebuild]
  by_cases hclean : known.isClean = true
  · -- The earlier environment stays, under a new version.
    rw [if_pos hclean]
    obtain ⟨hlayers, hplayer, hattributes⟩ := h.of_isClean hknown hclean
    exact ⟨hlayers, hplayer, hattributes⟩
  · rw [if_neg hclean]
    refine Layers.reflects_assemble ⟨?passives, ?items, ?skills, ?settings, ?enemy, ?resolved⟩ _ _
    case passives =>
      by_cases hc : (known.passives || !known.jewels.isClean) = true
      · simp only [if_pos hc]
        rfl
      · simp only [if_neg hc]
        simp only [Bool.or_eq_true, Bool.not_eq_true', not_or, Bool.not_eq_true,
          Bool.not_eq_false] at hc
        rw [h.layers.passives, hknown.passives hc.1 hc.2]
    case items =>
      exact Layers.itemStores_of_renewed h.layers.items (known.items.contains · = true) _
        (getElem?_refreshItems b _ _ _) hknown.items
    case skills =>
      by_cases hc : known.skills = true
      · simp only [if_pos hc]
        rfl
      · simp only [if_neg hc]
        rw [h.layers.skills, hknown.skills (Bool.eq_false_iff.mpr hc)]
    case settings =>
      by_cases hc : known.settings = true
      · simp only [if_pos hc]
        rfl
      · simp only [if_neg hc]
        exact h.layers.settings
    case enemy =>
      by_cases hc : known.settings = true
      · simp only [if_pos hc]
        rfl
      · simp only [if_neg hc]
        exact h.layers.enemy
    case resolved =>
      by_cases hc : known.settings = true
      · simp only [if_pos hc]
        exact .refl _
      · simp only [if_neg hc]
        exact h.layers.resolved.trans (hknown.settings (Bool.eq_false_iff.mpr hc))

/-! ### Single edits -/

omit [Scalar ν] in
theorem Build.item?_setItem (b : Build ν) (slot other : Slot) (worn : Option Item) :
    (b.setItem slot worn).item? other = if other = slot then worn else b.item? other := by
  cases worn with
  | none =>
    simp only [setItem, item?, Std.ExtTreeMap.getElem?_erase, Std.compare_eq_iff_eq,
      eq_comm (a := other)]
  | some worn =>
    simp only [setItem, item?, Std.ExtTreeMap.getElem?_insert, Std.compare_eq_iff_eq,
      eq_comm (a := other)]

/-- An environment with one slot edited reflects the build with that slot edited. -/
theorem GameData.reflects_equip {previous : Environment ν}
    (h : previous.Reflects data previous.build) (slot : Slot) (worn : Option Item) :
    (data.equip previous slot worn).Reflects data (previous.build.setItem slot worn) := by
  have hrest : Layer.passives data.grammar data.tree (previous.build.setItem slot worn) =
      Layer.passives data.grammar data.tree previous.build ∧
      (previous.build.setItem slot worn).skills = previous.build.skills ∧
      (previous.build.setItem slot worn).settings = previous.build.settings := by
    cases worn <;> exact ⟨rfl, rfl, rfl⟩
  obtain ⟨hpassives, hskills, hsettings⟩ := hrest
  have hitems : Layers.itemStores { previous.layers with
      items := data.refreshSlot (previous.build.setItem slot worn) (previous.version + 1)
        previous.layers.items slot } =
      (previous.build.setItem slot worn).items.map fun slot worn =>
        .ofList (Layer.item data.grammar slot worn) := by
    refine Layers.itemStores_of_renewed h.layers.items (· = slot)
      (previous.version + 1) (fun other => ?_) fun other hother => ?_
    · exact getElem?_refreshSlot (previous.build.setItem slot worn) (previous.version + 1)
        previous.layers.items slot other
    · rw [Build.item?_setItem, if_neg hother]
  unfold equip
  refine Layers.reflects_assemble ⟨?_, hitems, ?_, h.layers.settings, h.layers.enemy, ?_⟩ _ _
  · rw [h.layers.passives, hpassives]
  · rw [h.layers.skills, hskills]
  · rw [hsettings]
    exact h.layers.resolved

/-- Layers that are right for a build are right for another that differs from it on the passive
tree alone, once the passive layer is built anew. -/
theorem Layers.Reflects.renew_passives {l : Layers ν} {resolved : ResolvedSettings ν}
    {old : Build ν} (h : l.Reflects data resolved old) (new : Build ν)
    (hitems : new.items = old.items) (hskills : new.skills = old.skills)
    (hsettings : new.settings = old.settings) (version : Nat) :
    Layers.Reflects data { l with passives := data.passives new version } resolved new where
  passives := rfl
  items := by rw [hitems]; exact h.items
  skills := by rw [hskills]; exact h.skills
  settings := h.settings
  enemy := h.enemy
  resolved := by rw [hsettings]; exact h.resolved

/-- An environment with passive nodes reallocated reflects the build with these nodes. -/
theorem GameData.reflects_reallocate {previous : Environment ν}
    (h : previous.Reflects data previous.build) (added removed : List Nat) :
    (data.reallocate previous added removed).Reflects data
      (previous.build.reallocate added removed) := by
  unfold reallocate
  exact Layers.reflects_assemble
    (h.layers.renew_passives (previous.build.reallocate added removed) rfl rfl rfl _) _ _

/-- An environment with one socket edited reflects the build with that socket edited. -/
theorem GameData.reflects_socket {previous : Environment ν}
    (h : previous.Reflects data previous.build) (id : Nat) (jewel : Option Item) :
    (data.socket previous id jewel).Reflects data (previous.build.setJewel id jewel) := by
  have hrest : (previous.build.setJewel id jewel).items = previous.build.items ∧
      (previous.build.setJewel id jewel).skills = previous.build.skills ∧
      (previous.build.setJewel id jewel).settings = previous.build.settings := by
    cases jewel <;> exact ⟨rfl, rfl, rfl⟩
  obtain ⟨hitems, hskills, hsettings⟩ := hrest
  unfold socket
  exact Layers.reflects_assemble (h.layers.renew_passives _ hitems hskills hsettings _) _ _

/-! ### Runs -/

/-- The environments that runs produce, each with the build that was asked for. A rebuild by what
is known to have changed needs a record that covers the comparison of the builds. -/
inductive GameData.Made (data : GameData ν) : Environment ν → Build ν → Prop
  | full (b : Build ν) : Made data (data.full b) b
  | setup (b : Build ν) : Made data (data.setup b none) b
  | fullAgain {e : Environment ν} {old : Build ν} (h : Made data e old) (b : Build ν) :
      Made data (data.full b (some e)) b
  | compared {e : Environment ν} {old : Build ν} (h : Made data e old) (b : Build ν) :
      Made data (data.setup b (some (e, none))) b
  | informed {e : Environment ν} {old b : Build ν} (h : Made data e old) {known : Changes}
      (hknown : known.Covers (.between e.build b)) :
      Made data (data.setup b (some (e, some known))) b
  | rebuilt {e : Environment ν} {old b : Build ν} (h : Made data e old) {known : Changes}
      (hknown : known.Covers (.between e.build b)) : Made data (data.rebuild b e known) b
  | equipped {e : Environment ν} {old : Build ν} (h : Made data e old) (slot : Slot)
      (worn : Option Item) : Made data (data.equip e slot worn) (e.build.setItem slot worn)
  | reallocated {e : Environment ν} {old : Build ν} (h : Made data e old)
      (added removed : List Nat) :
      Made data (data.reallocate e added removed) (e.build.reallocate added removed)
  | socketed {e : Environment ν} {old : Build ν} (h : Made data e old) (id : Nat)
      (jewel : Option Item) : Made data (data.socket e id jewel) (e.build.setJewel id jewel)

/-- A rebuild records the build that it was asked for, unless nothing had changed. -/
theorem GameData.build_rebuild (b : Build ν) (previous : Environment ν) (known : Changes) :
    (data.rebuild b previous known).build =
      if known.isClean then previous.build else b := by
  rw [rebuild]
  by_cases hclean : known.isClean = true
  · rw [if_pos hclean, if_pos hclean]
  · rw [if_neg hclean, if_neg hclean, Layers.assemble_eq]

theorem GameData.build_full (b : Build ν) (previous : Option (Environment ν)) :
    (data.full b previous).build = b := by
  simp only [full, Layers.assemble_eq]

theorem GameData.build_equip (previous : Environment ν) (slot : Slot) (worn : Option Item) :
    (data.equip previous slot worn).build = previous.build.setItem slot worn := by
  simp only [equip, Layers.assemble_eq]

theorem GameData.build_reallocate (previous : Environment ν) (added removed : List Nat) :
    (data.reallocate previous added removed).build = previous.build.reallocate added removed := by
  simp only [reallocate, Layers.assemble_eq]

theorem GameData.build_socket (previous : Environment ν) (id : Nat) (jewel : Option Item) :
    (data.socket previous id jewel).build = previous.build.setJewel id jewel := by
  simp only [socket, Layers.assemble_eq]

private theorem Environment.Reflects.both {e : Environment ν} {b : Build ν}
    (h : e.Reflects data b) (hbuild : e.build = b) :
    e.Reflects data e.build ∧ e.Reflects data b := by
  rw [hbuild]
  exact ⟨h, h⟩

/-- A rebuild by a covering record reflects both the build that it records and the one that it was
asked for. -/
theorem GameData.reflects_rebuild_both [PartialEquivBEq ν] {previous : Environment ν}
    {b : Build ν} {known : Changes} (h : previous.Reflects data previous.build)
    (hknown : known.Covers (.between previous.build b)) :
    (data.rebuild b previous known).Reflects data (data.rebuild b previous known).build ∧
      (data.rebuild b previous known).Reflects data b := by
  have hnew := reflects_rebuild h (hknown.complete data.grammar data.tree)
  refine ⟨?_, hnew⟩
  rw [build_rebuild]
  by_cases hclean : known.isClean = true
  · obtain ⟨hlayers, hplayer, hattributes⟩ := h
    rw [if_pos hclean, rebuild, if_pos hclean]
    exact ⟨hlayers, hplayer, hattributes⟩
  · rw [if_neg hclean]
    exact hnew

/-- Every environment of a run reflects the build that it records and the one that was asked
for. They differ only where a rebuild found nothing changed. -/
theorem GameData.Made.reflects [PartialEquivBEq ν] {e : Environment ν} {b : Build ν}
    (h : data.Made e b) : e.Reflects data e.build ∧ e.Reflects data b := by
  -- Every step starts from the build that the earlier environment records.
  induction h with
  | full b => exact (reflects_full b none).both (build_full b none)
  | setup b => exact (reflects_full b none).both (build_full b none)
  | fullAgain _ b => exact (reflects_full b _).both (build_full b _)
  | compared _ b ih => exact reflects_rebuild_both ih.1 (.refl _)
  | informed _ hknown ih => exact reflects_rebuild_both ih.1 hknown
  | rebuilt _ hknown ih => exact reflects_rebuild_both ih.1 hknown
  | equipped _ slot worn ih =>
    exact (reflects_equip ih.1 slot worn).both (build_equip _ slot worn)
  | reallocated _ added removed ih =>
    exact (reflects_reallocate ih.1 added removed).both (build_reallocate _ added removed)
  | socketed _ id jewel ih =>
    exact (reflects_socket ih.1 id jewel).both (build_socket _ id jewel)

/-- Every environment of a run has the content that a full build of the build asked for has. -/
theorem GameData.Made.agrees_full [PartialEquivBEq ν] {e : Environment ν} {b : Build ν}
    (h : data.Made e b) : e.Agrees (data.full b) :=
  h.reflects.2.agrees

/-- A game with one class and one keystone, in which no line has a meaning. -/
def GameData.minimal : GameData Float where
  grammar := ⟨.empty, [], .ofRows [], .ofRows [], .ofRows []⟩
  tree := .ofListing
    { classes := .ofList [("Witch", (⟨14, 14, 32⟩ : Attributes Float))]
      nodes := [{ id := 7, name := "Iron Reflexes", isKeystone := true }] }

/-- A keystone is allocated, and then the class is changed under a record that marks everything. -/
theorem GameData.Made.agrees_full_minimal :
    let witch : Build Float := .ofClass "Witch"
    let other : Build Float := { witch.reallocate [7] [] with className := "Ranger" }
    let e := minimal.setup other
      (some (minimal.reallocate (minimal.full witch) [7] [], some .everything))
    minimal.Made e other ∧ e.Agrees (minimal.full other) := by
  intro witch other e
  have hmade : minimal.Made e other :=
    .informed (.reallocated (.full witch) [7] []) (Changes.covers_everything _)
  exact ⟨hmade, agrees_full hmade⟩

end Loadout
