import Loadout.Proofs.Environment.Reflection
import Loadout.Proofs.Line.Memory

/-!
# Where the player's modifiers come from

The player's store of a build is a row of contributions, one for each active input of the build:
the class, the allocated nodes that the tree knows, the jewels in allocated sockets, the items of
the active weapon set, the enabled gems of enabled groups and the settings. The contributions
come in this order, nodes and sockets by number, items by the name of their slot and gems by
position, and each modifier carries the origin of its input. So what is last added of two
overrides, and what a removal by origin takes out, can be told from the build.

## Main definitions

* `Input`, `Input.Before`: the inputs that can grant modifiers, and their order
* `Input.Active`: an input counts in a build, under an origin
* `Build.inputs`: the active inputs in order
* `GameData.granted`: the contribution of an input

## Main results

* `Build.mem_inputs_iff`, `Build.pairwise_inputs`: the list holds the active inputs, in order
* `GameData.player_provenance`: the player's store is the row of their contributions
-/

namespace Loadout

variable {ν : Type}

/-! ### Inputs -/

/-- What can grant modifiers to the player. Gems are told apart by the position of their group and
their own in the group. -/
inductive Input where
  | start
  | node (id : Nat)
  | jewel (socket : Nat)
  | item (slot : String)
  | gem (group position : Nat)
  | settings
  deriving DecidableEq

namespace Input

/-- The place of a kind of input in the order. -/
def rank : Input → Nat
  | start => 0
  | node _ => 1
  | jewel _ => 2
  | item _ => 3
  | gem _ _ => 4
  | settings => 5

/-- One input comes before another: by kind, and within a kind by number, by the name of the slot
or by position. -/
def Before : Input → Input → Prop
  | node id, node id' => id < id'
  | jewel socket, jewel socket' => socket < socket'
  | item slot, item slot' => slot < slot'
  | gem group position, gem group' position' =>
    group < group' ∨ group = group' ∧ position < position'
  | i, j => i.rank < j.rank

theorem before_of_rank_lt {i j : Input} (h : i.rank < j.rank) : i.Before j := by
  cases i <;> cases j <;> first | exact h | exact absurd h (Nat.lt_irrefl _)

/-- An input counts in a build on a tree, and its modifiers carry an origin. -/
inductive Active (tree : Tree ν) (b : Build ν) : Input → Origin → Prop
  | start : Active tree b .start ⟨.characterClass, some b.className⟩
  | node {id : Nat} {n : TreeNode} (allocated : id ∈ b.nodes) (known : tree.node? id = some n) :
      Active tree b (.node id) ⟨.passive, some (toString id)⟩
  | jewel {socket : Nat} {item : Item} (allocated : socket ∈ b.nodes)
      (socketed : b.jewels[socket]? = some item) :
      Active tree b (.jewel socket) ⟨.jewel, some (toString socket)⟩
  | item {slot : String} {worn : Item} (equipped : b.item? ⟨b.activeSet, slot⟩ = some worn) :
      Active tree b (.item slot) ⟨.item, some worn.id⟩
  | gem {i j : Nat} {group : SkillGroup} {gem : Gem} (linked : b.skills[i]? = some group)
      (groupEnabled : group.enabled = true) (socketed : group.gems[j]? = some gem)
      (enabled : gem.enabled = true) : Active tree b (.gem i j) ⟨.skill, some gem.name⟩
  | settings : Active tree b .settings ⟨.config, none⟩

end Input

/-! ### The active inputs of a build -/

/-- The members of a list that pass a test, with their positions. -/
def passing {α : Type} (test : α → Bool) (as : List α) : List (α × Nat) :=
  as.zipIdx.filter fun entry => test entry.1

section Passing

variable {α β : Type} {test : α → Bool} {as : List α}

theorem mem_passing_iff {a : α} {i : Nat} :
    (a, i) ∈ passing test as ↔ as[i]? = some a ∧ test a = true := by
  rw [passing, List.mem_filter, List.mem_zipIdx_iff_getElem?]

theorem map_fst_passing : (passing test as).map (·.1) = as.filter test := by
  have h := List.filter_map (p := test) (f := fun entry : α × Nat => entry.1) (l := as.zipIdx)
  rw [List.zipIdx_map_fst] at h
  exact h.symm

theorem flatMap_passing (f : α → List β) :
    (passing test as).flatMap (fun entry => f entry.1) = (as.filter test).flatMap f := by
  rw [← map_fst_passing, List.flatMap_map]

theorem pairwise_passing : (passing test as).Pairwise fun entry other => entry.2 < other.2 := by
  have h : (as.zipIdx.map (·.2)).Pairwise (· < ·) := by
    rw [List.zipIdx_map_snd]
    exact List.pairwise_lt_range'
  exact (List.pairwise_map.mp h).filter _

end Passing

namespace Build

variable (tree : Tree ν) (b : Build ν)

/-- The active inputs of each kind, in order. -/
def inputKinds : List (List Input) :=
  [[.start],
    (b.nodes.toList.filter fun id => (tree.node? id).isSome).map .node,
    (b.jewels.toList.filter fun entry => b.nodes.contains entry.1).map fun entry =>
      .jewel entry.1,
    (b.items.toList.filter fun entry => entry.1.set == b.activeSet).map fun entry =>
      .item entry.1.name,
    (passing (·.enabled) b.skills).flatMap fun group =>
      (passing (·.enabled) group.1.gems).map fun gem => .gem group.2 gem.2,
    [.settings]]

/-- The active inputs in order. -/
def inputs : List Input :=
  (b.inputKinds tree).flatten

variable {tree b}

/-- The list of inputs holds the active ones. -/
theorem mem_inputs_iff {i : Input} : i ∈ b.inputs tree ↔ ∃ o, i.Active tree b o := by
  have hmem : i ∈ b.inputs tree ↔ i = .start ∨
      (∃ id, (id ∈ b.nodes ∧ (tree.node? id).isSome) ∧ .node id = i) ∨
      (∃ socket item, (b.jewels[socket]? = some item ∧ socket ∈ b.nodes) ∧ .jewel socket = i) ∨
      (∃ (slot : Slot) (worn : Item), (b.items[slot]? = some worn ∧ slot.set = b.activeSet) ∧
        .item slot.name = i) ∨
      (∃ group m, (b.skills[m]? = some group ∧ group.enabled = true) ∧
        ∃ gem n, (group.gems[n]? = some gem ∧ gem.enabled = true) ∧ .gem m n = i) ∨
      i = .settings := by
    simp only [inputs, inputKinds, List.flatten_cons, List.flatten_nil, List.append_nil,
      List.mem_append, List.mem_singleton, List.mem_map, List.mem_filter, List.mem_flatMap,
      Prod.exists, mem_passing_iff, Std.ExtTreeSet.mem_toList,
      Std.ExtTreeMap.mem_toList_iff_getElem?_eq_some, Std.ExtTreeSet.contains_iff_mem, beq_iff_eq]
  rw [hmem]
  constructor
  · rintro (rfl | ⟨id, ⟨hid, hknown⟩, rfl⟩ | ⟨socket, item, ⟨hitem, hsocket⟩, rfl⟩ |
      ⟨⟨set, name⟩, worn, ⟨hworn, rfl⟩, rfl⟩ |
      ⟨group, m, ⟨hgroup, hon⟩, gem, n, ⟨hgem, hon'⟩, rfl⟩ | rfl)
    · exact ⟨_, .start⟩
    · obtain ⟨node, hnode⟩ := Option.isSome_iff_exists.mp hknown
      exact ⟨_, .node hid hnode⟩
    · exact ⟨_, .jewel hsocket hitem⟩
    · exact ⟨_, .item hworn⟩
    · exact ⟨_, .gem hgroup hon hgem hon'⟩
    · exact ⟨_, .settings⟩
  · rintro ⟨o, h⟩
    cases h with
    | start => exact .inl rfl
    | node allocated known =>
      exact .inr (.inl ⟨_, ⟨allocated, by rw [known]; rfl⟩, rfl⟩)
    | jewel allocated socketed => exact .inr (.inr (.inl ⟨_, _, ⟨socketed, allocated⟩, rfl⟩))
    | item equipped => exact .inr (.inr (.inr (.inl ⟨_, _, ⟨equipped, rfl⟩, rfl⟩)))
    | gem linked groupEnabled socketed enabled =>
      exact .inr (.inr (.inr (.inr (.inl
        ⟨_, _, ⟨linked, groupEnabled⟩, _, _, ⟨socketed, enabled⟩, rfl⟩))))
    | settings => exact .inr (.inr (.inr (.inr (.inr rfl))))

end Build

theorem Slot.name_lt_of_compare {slot other : Slot} (hset : slot.set = other.set)
    (h : compare slot other = .lt) : slot.name < other.name := by
  obtain ⟨set, name⟩ := slot
  obtain ⟨_, name'⟩ := other
  obtain rfl : set = _ := hset
  have h : (compare set.rank set.rank).then (compare name name') = .lt := h
  rw [Std.compare_self, Ordering.eq_then] at h
  exact compareOfLessAndEq_eq_lt.mp h

namespace Build

variable {tree : Tree ν} {b : Build ν}

private theorem pairwise_of_mem_inputKinds {kind : List Input} (h : kind ∈ b.inputKinds tree) :
    kind.Pairwise Input.Before := by
  simp only [inputKinds, List.mem_cons, List.not_mem_nil, or_false] at h
  rcases h with rfl | rfl | rfl | rfl | rfl | rfl
  case inl => exact List.pairwise_singleton _ _
  case inr.inl =>
    refine List.pairwise_map.mpr (List.Pairwise.filter _ ?_)
    exact Std.ExtTreeSet.ordered_toList.imp Std.compare_eq_lt.mp
  case inr.inr.inl =>
    refine List.pairwise_map.mpr (List.Pairwise.filter _ ?_)
    exact Std.ExtTreeMap.ordered_keys_toList.imp Std.compare_eq_lt.mp
  case inr.inr.inr.inl =>
    refine List.pairwise_map.mpr (List.pairwise_filter.mpr ?_)
    refine Std.ExtTreeMap.ordered_keys_toList.imp fun hlt hset hset' => ?_
    exact Slot.name_lt_of_compare ((beq_iff_eq.mp hset).trans (beq_iff_eq.mp hset').symm) hlt
  case inr.inr.inr.inr.inl =>
    refine List.pairwise_flatMap.mpr ⟨fun group _ => ?_, pairwise_passing.imp ?_⟩
    · exact List.pairwise_map.mpr (pairwise_passing.imp fun hlt => .inr ⟨rfl, hlt⟩)
    · intro group other hlt i hi j hj
      obtain ⟨gem, -, rfl⟩ := List.mem_map.mp hi
      obtain ⟨gem', -, rfl⟩ := List.mem_map.mp hj
      exact .inl hlt
  case inr.inr.inr.inr.inr => exact List.pairwise_singleton _ _

private theorem rank_of_mem_inputKinds {kind : List Input} {n : Nat}
    (h : (b.inputKinds tree)[n]? = some kind) {i : Input} (hi : i ∈ kind) : i.rank = n := by
  match n with
  | 0 | 5 =>
    obtain rfl := Option.some.inj h
    rw [List.mem_singleton.mp hi]
    rfl
  | 1 | 2 | 3 =>
    obtain rfl := Option.some.inj h
    obtain ⟨_, -, rfl⟩ := List.mem_map.mp hi
    rfl
  | 4 =>
    obtain rfl := Option.some.inj h
    obtain ⟨group, -, hgem⟩ := List.mem_flatMap.mp hi
    obtain ⟨gem, -, rfl⟩ := List.mem_map.mp hgem
    rfl
  | _ + 6 => cases h

/-- The inputs are in order. -/
theorem pairwise_inputs : (b.inputs tree).Pairwise Input.Before := by
  refine List.pairwise_flatten.mpr ⟨fun _ => pairwise_of_mem_inputKinds, ?_⟩
  rw [List.pairwise_iff_getElem]
  intro m n hm hn hmn i hi j hj
  apply Input.before_of_rank_lt
  rw [rank_of_mem_inputKinds (List.getElem?_eq_getElem hm) hi,
    rank_of_mem_inputKinds (List.getElem?_eq_getElem hn) hj]
  exact hmn

end Build

/-! ### Contributions -/

variable [Scalar ν]

theorem Grammar.mem_modifiersOf_iff (g : Grammar ν) {lines : List String} {ctx : LineContext}
    {m : Modifier ν} : m ∈ g.modifiersOf lines ctx ↔
      ∃ line ∈ lines, ∃ o, g.parse? line ctx = some o ∧ m ∈ o.modifiers := by
  rw [modifiersOf, List.mem_flatMap]
  refine exists_congr fun line => and_congr_right fun _ => ?_
  cases g.parse? line ctx <;> simp

theorem Grammar.origin_of_mem_modifiersOf (g : Grammar ν) {lines : List String}
    {ctx : LineContext} {m : Modifier ν} (hm : m ∈ g.modifiersOf lines ctx) :
    m.origin = ctx.origin := by
  obtain ⟨line, -, o, ho, hm⟩ := g.mem_modifiersOf_iff.mp hm
  exact (Grammar.owns_of_parse? ho hm).origin

variable (data : GameData ν) (b : Build ν)

/-- What an input grants. -/
def GameData.granted : Input → List (Modifier ν)
  | .start => Layer.startingAttributes data.tree b.className
  | .node id => Layer.node data.grammar data.tree b.masteries id
  | .jewel socket => (b.jewels[socket]?).elim [] (Layer.jewel data.grammar socket)
  | .item name =>
    (b.item? ⟨b.activeSet, name⟩).elim [] (Layer.item data.grammar ⟨b.activeSet, name⟩)
  | .gem i j => (b.skills[i]?).elim [] fun group =>
    (group.gems[j]?).elim [] (Layer.gem data.grammar group.label)
  | .settings => Layer.settings data.grammar b.settings.resolve

variable {data b}

namespace GameData

private theorem flatMap_granted_nodes (ids : List Nat) :
    ((ids.filter fun id => (data.tree.node? id).isSome).map Input.node).flatMap
      (data.granted b) = ids.flatMap (Layer.node data.grammar data.tree b.masteries) := by
  induction ids with
  | nil => rfl
  | cons id ids ih =>
    cases hnode : data.tree.node? id with
    | none =>
      have hnothing : Layer.node data.grammar data.tree b.masteries id = [] := by
        simp only [Layer.node, hnode]
      simp only [List.filter_cons, hnode, Option.isSome_none, Bool.false_eq_true, if_false, ih,
        List.flatMap_cons, hnothing, List.nil_append]
    | some node =>
      simp only [List.filter_cons, hnode, Option.isSome_some, if_true, List.map_cons,
        List.flatMap_cons, ih, granted]

/-- The passive layer is what the class, the nodes and the jewels grant. -/
private theorem passives_eq_flatMap : Layer.passives data.grammar data.tree b =
    (((b.inputKinds data.tree).take 3).flatten).flatMap (data.granted b) := by
  have hjewels : ((b.jewels.toList.filter fun entry => b.nodes.contains entry.1).map
      fun entry => Input.jewel entry.1).flatMap (data.granted b) =
      (b.jewels.toList.filter fun entry => b.nodes.contains entry.1).flatMap fun entry =>
        Layer.jewel data.grammar entry.1 entry.2 := by
    rw [List.flatMap_map]
    refine List.flatMap_congr fun entry hentry => ?_
    have hget : b.jewels[entry.1]? = some entry.2 :=
      Std.ExtTreeMap.mem_toList_iff_getElem?_eq_some.mp (List.mem_filter.mp hentry).1
    simp only [granted, hget, Option.elim_some]
  simp only [Build.inputKinds, List.take_succ_cons, List.take_zero, List.flatten_cons,
    List.flatten_nil, List.append_nil, List.flatMap_append, flatMap_granted_nodes, hjewels,
    List.flatMap_singleton, granted, Layer.passives, List.append_assoc]

/-- The items of the active weapon set grant the modifiers of their stores. -/
private theorem items_eq_flatMap (version : Nat) :
    ((((data.items b version).toList.filter fun entry => entry.1.set == b.activeSet).map
      fun entry => entry.2.store).flatMap Store.toList) =
    ((b.items.toList.filter fun entry => entry.1.set == b.activeSet).map fun entry =>
      Input.item entry.1.name).flatMap (data.granted b) := by
  rw [items, Std.ExtTreeMap.toList_map, List.filter_map, List.map_map, List.flatMap_map,
    List.flatMap_map]
  refine List.flatMap_congr fun entry hentry => ?_
  obtain ⟨hmem, hset⟩ := List.mem_filter.mp hentry
  obtain ⟨⟨set, name⟩, worn⟩ := entry
  obtain rfl : set = b.activeSet := beq_iff_eq.mp hset
  have hget : b.item? ⟨b.activeSet, name⟩ = some worn :=
    Std.ExtTreeMap.mem_toList_iff_getElem?_eq_some.mp hmem
  simp only [Function.comp_apply, item, Store.toList_ofList, granted, hget, Option.elim_some]

private theorem skills_eq_flatMap : Layer.skills data.grammar b.skills =
    ((passing (·.enabled) b.skills).flatMap fun group =>
      (passing (·.enabled) group.1.gems).map fun gem => Input.gem group.2 gem.2).flatMap
        (data.granted b) := by
  rw [Layer.skills, ← flatMap_passing, List.flatMap_assoc]
  refine List.flatMap_congr fun group hgroup => ?_
  have hget : b.skills[group.2]? = some group.1 := (mem_passing_iff.mp hgroup).1
  rw [← flatMap_passing, List.flatMap_map]
  refine List.flatMap_congr fun gem hgem => ?_
  have hget' : group.1.gems[gem.2]? = some gem.1 := (mem_passing_iff.mp hgem).1
  simp only [granted, hget, hget', Option.elim_some]

/-- The player's store holds what the active inputs grant, in order. -/
theorem toList_player_full (previous : Option (Environment ν)) :
    (data.full b previous).player.store.toList =
      (b.inputs data.tree).flatMap (data.granted b) := by
  have hkinds : b.inputs data.tree = ((b.inputKinds data.tree).take 3).flatten ++
      ((b.inputKinds data.tree).drop 3).flatten := by
    rw [← List.flatten_append, List.take_append_drop]
    rfl
  rw [hkinds, List.flatMap_append, ← passives_eq_flatMap]
  simp only [full, Layers.assemble_eq, Store.toList_compose, Layers.playerParts, List.flatMap_cons,
    List.flatMap_append, List.flatMap_nil, List.append_nil, passives, skills, settings,
    Store.toList_ofList, items_eq_flatMap, skills_eq_flatMap, Build.inputKinds,
    List.drop_succ_cons, List.drop_zero, List.flatten_cons, List.flatten_nil, granted,
    List.cons_append]

/-- A mastery grants only lines of the effect that is selected for it, if the node offers it. -/
theorem mem_granted_of_isMastery {id : Nat} {node : TreeNode}
    (hnode : data.tree.node? id = some node) (hmastery : node.isMastery = true)
    {m : Modifier ν} (hm : m ∈ data.granted b (.node id)) :
    ∃ effect lines line o, b.masteries[id]? = some effect ∧
      node.masteryEffects[effect]? = some lines ∧ line ∈ lines ∧
      data.grammar.parse? line { origin := Layer.nodeOrigin id } = some o ∧
      m ∈ o.modifiers := by
  simp only [granted, Layer.node, hnode, hmastery, if_true] at hm
  split at hm
  case h_2 => cases hm
  case h_1 lines hselected =>
    obtain ⟨effect, heffect, hlines⟩ := Option.bind_eq_some_iff.mp hselected
    obtain ⟨line, hline, o, ho, hm⟩ := data.grammar.mem_modifiersOf_iff.mp hm
    exact ⟨effect, lines, line, o, heffect, hlines, hline, ho, hm⟩

private theorem origin_of_mem_node {id : Nat} {m : Modifier ν}
    (hm : m ∈ data.granted b (.node id)) : m.origin = Layer.nodeOrigin id := by
  cases hnode : data.tree.node? id with
  | none =>
    simp only [granted, Layer.node, hnode, List.not_mem_nil] at hm
  | some node =>
    cases hmastery : node.isMastery with
    | true =>
      obtain ⟨_, _, _, _, -, -, -, ho, hm⟩ := mem_granted_of_isMastery hnode hmastery hm
      exact (Grammar.owns_of_parse? ho hm).origin
    | false =>
      simp only [granted, Layer.node, hnode, hmastery, Bool.false_eq_true, if_false,
        List.mem_append] at hm
      rcases hm with hm | hm
      · exact data.grammar.origin_of_mem_modifiersOf hm
      · split at hm
        · rw [List.mem_singleton.mp hm]
          rfl
        · cases hm

private theorem origin_of_mem_settings {m : Modifier ν} (hm : m ∈ data.granted b .settings) :
    m.origin = Layer.settingsOrigin := by
  have hcharges {stat : String} {count : Nat} (h : m ∈ Layer.charges stat count) :
      m.origin = Layer.settingsOrigin := by
    unfold Layer.charges at h
    split at h
    · cases h
    · rw [List.mem_singleton.mp h]
      rfl
  simp only [granted, Layer.settings, List.mem_append, List.mem_map] at hm
  rcases hm with (((hm | hm) | hm) | ⟨decision, -, rfl⟩) | hm
  · exact hcharges hm
  · exact hcharges hm
  · exact hcharges hm
  · rfl
  · exact data.grammar.origin_of_mem_modifiersOf hm

theorem origin_of_mem_granted {i : Input} {o : Origin} (h : i.Active data.tree b o)
    {m : Modifier ν} (hm : m ∈ data.granted b i) : m.origin = o := by
  cases h with
  | start =>
    simp only [granted, Layer.startingAttributes] at hm
    split at hm
    · simp only [List.mem_cons, List.not_mem_nil, or_false] at hm
      rcases hm with rfl | rfl | rfl <;> rfl
    · cases hm
  | node allocated known => exact origin_of_mem_node hm
  | jewel allocated socketed =>
    simp only [granted, socketed, Option.elim_some] at hm
    exact data.grammar.origin_of_mem_modifiersOf hm
  | item equipped =>
    simp only [granted, equipped, Option.elim_some] at hm
    exact data.grammar.origin_of_mem_modifiersOf hm
  | gem linked groupEnabled socketed enabled =>
    simp only [granted, linked, socketed, Option.elim_some] at hm
    obtain rfl | hm := List.mem_cons.mp hm
    · rfl
    · exact data.grammar.origin_of_mem_modifiersOf hm
  | settings => exact origin_of_mem_settings hm

/-- The player's store of a full build is the row of what the active inputs of the build grant. The
inputs come once each and in order, every modifier carries the origin of its input, and what a
mastery grants is read from the lines of its selected effect. -/
theorem player_provenance (data : GameData ν) (b : Build ν) (previous : Option (Environment ν)) :
    ∃ inputs : List Input,
      (data.full b previous).player.store.toList = inputs.flatMap (data.granted b) ∧
      inputs.Pairwise Input.Before ∧
      (∀ i, i ∈ inputs ↔ ∃ o, i.Active data.tree b o) ∧
      (∀ i o, i.Active data.tree b o → ∀ m ∈ data.granted b i, m.origin = o) ∧
      ∀ id node, data.tree.node? id = some node → node.isMastery = true →
        ∀ m ∈ data.granted b (.node id), ∃ effect lines line o, b.masteries[id]? = some effect ∧
          node.masteryEffects[effect]? = some lines ∧ line ∈ lines ∧
          data.grammar.parse? line { origin := Layer.nodeOrigin id } = some o ∧
          m ∈ o.modifiers :=
  ⟨b.inputs data.tree, toList_player_full previous, Build.pairwise_inputs,
    fun _ => Build.mem_inputs_iff, fun _ _ h _ => origin_of_mem_granted h,
    fun _ _ hnode hmastery _ => mem_granted_of_isMastery hnode hmastery⟩

end GameData

end Loadout
