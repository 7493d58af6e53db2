import Loadout.Proofs.Environment.Rebuild

/-!
# The build that an environment records

The build that an environment records is what the next comparison starts from and what the next
edit changes. A full build and every edit record the build that they were asked for. A rebuild
records it too, unless it finds nothing changed: then the earlier record stays. The comparison
looks at every field of a build but the level, so the earlier record is that of the build asked
for except for the level, and a new level is recorded only when something else changed with it.

## Main definitions

* `Build.SlotEdited`, `Build.NodesEdited`, `Build.SocketEdited`: a single edit and nothing else
* `Build.Alike`: the same build, up to numbers that comparison does not tell apart
* `Build.matchesButLevel`: whether two builds differ at most in their level

## Main results

* `Changes.between_isClean`: the comparison finds nothing when only the level may differ
* `GameData.Made.build_alike`: along a run the record differs from what was asked for at most in
  the level
* `GameData.recorded_build`: what a rebuild and each single edit record
-/

namespace Loadout

variable {ν : Type}

namespace Build

/-! ### Single edits -/

/-- What a slot holds changed, and nothing else. -/
structure SlotEdited (old : Build ν) (slot : Slot) (worn : Option Item) (new : Build ν) :
    Prop where
  item : ∀ other, new.item? other = if other = slot then worn else old.item? other
  frame : { new with items := old.items } = old

/-- Passive nodes were removed and then others added, and nothing else changed. -/
structure NodesEdited (old : Build ν) (added removed : List Nat) (new : Build ν) : Prop where
  node : ∀ id, id ∈ new.nodes ↔ id ∈ added ∨ id ∈ old.nodes ∧ id ∉ removed
  frame : { new with nodes := old.nodes } = old

/-- What a socket holds changed, and nothing else. -/
structure SocketEdited (old : Build ν) (socket : Nat) (jewel : Option Item) (new : Build ν) :
    Prop where
  jewel : ∀ other, new.jewels[other]? = if other = socket then jewel else old.jewels[other]?
  frame : { new with jewels := old.jewels } = old

theorem slotEdited_setItem (b : Build ν) (slot : Slot) (worn : Option Item) :
    b.SlotEdited slot worn (b.setItem slot worn) where
  item other := b.item?_setItem slot other worn
  frame := by cases worn <;> rfl

private theorem mem_foldl_insert (ids : List Nat) (nodes : Std.ExtTreeSet Nat) (id : Nat) :
    id ∈ ids.foldl .insert nodes ↔ id ∈ ids ∨ id ∈ nodes := by
  induction ids generalizing nodes with
  | nil => simp only [List.foldl_nil, List.not_mem_nil, false_or]
  | cons first rest ih =>
    rw [List.foldl_cons, ih, Std.ExtTreeSet.mem_insert, Std.compare_eq_iff_eq, List.mem_cons,
      eq_comm (a := first)]
    exact or_left_comm.trans or_assoc.symm

private theorem mem_foldl_erase (ids : List Nat) (nodes : Std.ExtTreeSet Nat) (id : Nat) :
    id ∈ ids.foldl .erase nodes ↔ id ∈ nodes ∧ id ∉ ids := by
  induction ids generalizing nodes with
  | nil => simp only [List.foldl_nil, List.not_mem_nil, not_false_iff, and_true]
  | cons first rest ih =>
    rw [List.foldl_cons, ih, Std.ExtTreeSet.mem_erase, ne_eq, Std.compare_eq_iff_eq,
      List.mem_cons, not_or, eq_comm (a := first)]
    exact and_assoc.trans and_left_comm

theorem nodesEdited_reallocate (b : Build ν) (added removed : List Nat) :
    b.NodesEdited added removed (b.reallocate added removed) where
  node id := by rw [reallocate, mem_foldl_insert, mem_foldl_erase]
  frame := rfl

theorem socketEdited_setJewel (b : Build ν) (socket : Nat) (jewel : Option Item) :
    b.SocketEdited socket jewel (b.setJewel socket jewel) where
  jewel other := by
    cases jewel with
    | none =>
      simp only [setJewel, Std.ExtTreeMap.getElem?_erase, Std.compare_eq_iff_eq,
        eq_comm (a := other)]
    | some jewel =>
      simp only [setJewel, Std.ExtTreeMap.getElem?_insert, Std.compare_eq_iff_eq,
        eq_comm (a := other)]
  frame := by cases jewel <;> rfl

/-! ### Builds that comparison does not tell apart -/

/-- Builds with the same settings up to numbers that comparison does not tell apart, and otherwise
the same. -/
structure Alike [BEq ν] (b b' : Build ν) : Prop where
  settings : b.settings.Alike b'.settings
  rest : { b with settings := b'.settings } = b'

/-- Whether two builds pass the equality test once they have one level. -/
def matchesButLevel [BEq ν] (old new : Build ν) : Bool :=
  { old with level := new.level } == new

variable [BEq ν] {old new : Build ν}

theorem Alike.refl (b : Build ν) : b.Alike b :=
  ⟨.refl _, rfl⟩

theorem Alike.level_eq (h : old.Alike new) : old.level = new.level := by
  rw [← h.rest]

theorem matchesButLevel_iff (old new : Build ν) : old.matchesButLevel new = true ↔
    { old with level := new.level, settings := new.settings } = new ∧
      (old.settings == new.settings) = true := by
  have hfields : old.matchesButLevel new =
      instBEqBuild.beq { old with level := new.level } new := rfl
  rw [hfields]
  obtain ⟨className, ascendancy, level, nodes, masteries, jewels, items, activeSet, skills,
    settings⟩ := old
  obtain ⟨className', ascendancy', level', nodes', masteries', jewels', items', activeSet',
    skills', settings'⟩ := new
  simp only [instBEqBuild.beq, Bool.and_eq_true, beq_iff_eq, mk.injEq, beq_self_eq_true, true_and,
    and_true, and_assoc]

/-- Builds that match but for the level are alike once they have one level. -/
theorem alike_of_matchesButLevel (h : old.matchesButLevel new = true) :
    Alike { old with level := new.level } new := by
  obtain ⟨hrest, hsettings⟩ := (matchesButLevel_iff old new).mp h
  exact ⟨Settings.alike_of_beq hsettings, hrest⟩

end Build

/-! ### What the comparison sees -/

namespace Changes

theorem differingKeys_self {κ α : Type} [Ord κ] [Std.TransOrd κ] [DecidableEq α]
    (entries : Std.ExtTreeMap κ α) : differingKeys entries entries = [] := by
  rw [differingKeys, List.filter_eq_nil_iff]
  intro key _
  simp only [ne_eq, not_true_eq_false, decide_false, Bool.false_eq_true, not_false_iff]

variable [Scalar ν] {old new : Build ν}

/-- Where a record that covers the comparison holds no change, the builds match but for the
level. -/
theorem Covers.matchesButLevel {known : Changes} (h : known.Covers (between old new))
    (hclean : known.isClean = true) : old.matchesButLevel new = true := by
  simp only [isClean, Bool.and_eq_true, Bool.not_eq_true'] at hclean
  obtain ⟨⟨⟨⟨⟨hp, hj⟩, hi⟩, hs⟩, hc⟩, hw⟩ := hclean
  have hpassives := unmarked_of_cover h.passives hp
  simp only [between, Bool.or_eq_false_iff, bne_eq_false_iff_eq] at hpassives
  obtain ⟨⟨⟨hclass, hascendancy⟩, hnodes⟩, hmasteries⟩ := hpassives
  have hjewels : old.jewels = new.jewels := between_jewels fun socket =>
    mt (h.jewels socket) (Bool.eq_false_iff.mp (ChangeSet.not_contains_of_isClean hj socket))
  have hitems : old.items = new.items := Std.ExtTreeMap.ext_getElem? fun slot => between_items <|
    mt (h.items slot) (Bool.eq_false_iff.mp (ChangeSet.not_contains_of_isClean hi slot))
  have hskills := between_skills (unmarked_of_cover h.skills hs)
  have hweapon := between_weaponSet (unmarked_of_cover h.weaponSet hw)
  have hsettings : (old.settings == new.settings) = true := by
    simpa only [between, bne, Bool.not_eq_false'] using unmarked_of_cover h.settings hc
  refine (Build.matchesButLevel_iff old new).mpr ⟨?_, hsettings⟩
  rw [hclass, hascendancy, hnodes, hmasteries, hjewels, hitems, hweapon, hskills]

/-- The comparison finds nothing exactly when the builds match but for the level. -/
theorem between_isClean (old new : Build ν) :
    (between old new).isClean = old.matchesButLevel new := by
  refine Bool.eq_iff_iff.mpr ⟨(Covers.refl _).matchesButLevel, fun h => ?_⟩
  obtain ⟨hrest, hsettings⟩ := (Build.matchesButLevel_iff old new).mp h
  rw [← hrest]
  simp only [between, isClean, differingKeys_self, ChangeSet.isClean_ofList, List.isEmpty_nil,
    bne, hsettings, beq_self_eq_true, Bool.or_self, Bool.not_true, Bool.not_false, Bool.and_self]

end Changes

/-! ### What a step records -/

variable [Scalar ν] (data : GameData ν)

namespace GameData

/-- A rebuild by a record that covers the changes records the build that it was asked for, up to
the level. -/
theorem alike_rebuild {previous : Environment ν} {b : Build ν} {known : Changes}
    (hknown : known.Covers (.between previous.build b)) :
    Build.Alike { (data.rebuild b previous known).build with level := b.level } b := by
  rw [build_rebuild]
  by_cases hclean : known.isClean = true
  · rw [if_pos hclean]
    exact Build.alike_of_matchesButLevel (hknown.matchesButLevel hclean)
  · rw [if_neg hclean]
    exact .refl b

/-- An environment that was made by comparing builds records the new build, unless the comparison
finds nothing. -/
theorem build_setup (b : Build ν) (previous : Environment ν) :
    (data.setup b (some (previous, none))).build =
      if previous.build.matchesButLevel b then previous.build else b := by
  rw [← Changes.between_isClean]
  exact build_rebuild b previous _

/-- The record of a comparing rebuild is right exactly when the level stayed or something else
changed with it. -/
theorem alike_setup_iff (b : Build ν) (previous : Environment ν) :
    (data.setup b (some (previous, none))).build.Alike b ↔
      previous.build.level = b.level ∨ previous.build.matchesButLevel b = false := by
  rw [build_setup]
  by_cases hmatch : previous.build.matchesButLevel b = true
  · rw [if_pos hmatch]
    constructor
    · exact fun h => .inl h.level_eq
    · rintro (hlevel | hdiffers)
      · have h := Build.alike_of_matchesButLevel hmatch
        rwa [← hlevel] at h
      · exact absurd hmatch (Bool.eq_false_iff.mp hdiffers)
  · rw [if_neg hmatch]
    exact iff_of_true (.refl b) (.inr (Bool.eq_false_iff.mpr hmatch))

/-- What is recorded after a rebuild that compares builds and after each single edit, whatever
environment it starts from. The rebuild records the build that it was asked for, except when the
level alone changed; then it keeps the earlier level, and all else is as asked for. An edit
changes the record by that edit and nothing else. -/
theorem recorded_build (previous : Environment ν) :
    (∀ b : Build ν,
      ((data.setup b (some (previous, none))).build.Alike b ↔
        previous.build.level = b.level ∨ previous.build.matchesButLevel b = false) ∧
      Build.Alike { (data.setup b (some (previous, none))).build with level := b.level } b) ∧
    (∀ slot worn, previous.build.SlotEdited slot worn (data.equip previous slot worn).build) ∧
    (∀ added removed,
      previous.build.NodesEdited added removed (data.reallocate previous added removed).build) ∧
    ∀ id jewel, previous.build.SocketEdited id jewel (data.socket previous id jewel).build := by
  refine ⟨fun b => ⟨data.alike_setup_iff b previous, data.alike_rebuild (.refl _)⟩,
    fun slot worn => ?_, fun added removed => ?_, fun id jewel => ?_⟩
  · rw [build_equip]
    exact previous.build.slotEdited_setItem slot worn
  · rw [build_reallocate]
    exact previous.build.nodesEdited_reallocate added removed
  · rw [build_socket]
    exact previous.build.socketEdited_setJewel id jewel

/-- A witch gains a level and nothing else: the environment still records the first level. -/
theorem minimal_forgets_level :
    let witch : Build Float := .ofClass "Witch"
    let grown : Build Float := { witch with level := 2 }
    let recorded := (minimal.setup grown (some (minimal.full witch, none))).build
    recorded.level = 1 ∧ ¬ recorded.Alike grown := by
  intro witch grown recorded
  have hsettings : ((.standard : Settings Float) == .standard) = true := by decide
  have hmatch : (minimal.full witch).build.matchesButLevel grown = true := by
    rw [build_full]
    exact (Build.matchesButLevel_iff witch grown).mpr ⟨rfl, hsettings⟩
  have hlevel : recorded.level = 1 := by
    change (minimal.setup grown (some (minimal.full witch, none))).build.level = 1
    rw [build_setup, if_pos hmatch, build_full]
    rfl
  refine ⟨hlevel, fun halike => ?_⟩
  have hgrown := hlevel.symm.trans halike.level_eq
  exact absurd hgrown (by decide)

/-! ### Runs -/

variable {data}

/-- Along a run the recorded build differs from the one that was asked for at most in the level. -/
theorem Made.build_alike {e : Environment ν} {b : Build ν} (h : data.Made e b) :
    Build.Alike { e.build with level := b.level } b := by
  have recorded {e : Environment ν} {b : Build ν} (hbuild : e.build = b) :
      Build.Alike { e.build with level := b.level } b := by
    rw [hbuild]
    exact .refl b
  cases h with
  | full b => exact recorded (build_full b none)
  | setup b => exact recorded (build_full b none)
  | fullAgain _ b => exact recorded (build_full b _)
  | compared _ b => exact data.alike_rebuild (.refl _)
  | informed _ hknown => exact data.alike_rebuild hknown
  | rebuilt _ hknown => exact data.alike_rebuild hknown
  | equipped _ slot worn => exact recorded (build_equip _ slot worn)
  | reallocated _ added removed => exact recorded (build_reallocate _ added removed)
  | socketed _ id jewel => exact recorded (build_socket _ id jewel)

end GameData

end Loadout
