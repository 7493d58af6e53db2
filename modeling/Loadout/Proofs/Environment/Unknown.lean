import Loadout.Pattern.Reader
import Mathlib.Data.List.Sort
import Loadout.Proofs.Environment.KnownLine
import Loadout.Proofs.Environment.Record

/-!
# Nodes that the tree does not know

A node that is missing from the tree grants nothing, so it should make no difference whether it is
allocated. The passive layer runs through the allocated nodes twice, though: for what the nodes
grant, where the tree is asked for each of them, and for the jewels in allocated sockets, where it
is not. A jewel in a socket that the tree does not know counts as soon as the socket is allocated.
Its modifiers are all that an unknown node can add, and where there are none the layer is the same,
in the same order.

## Main definitions

* `Layer.socketed`: what the jewel in a socket would grant

## Main results

* `Layer.passives_unknown`: what allocating an unknown node adds to the passive layer
* `GameData.passives_unknown_iff`: when the passive store is the same
* `GameData.passives_keen`: an unknown node that adds to it
-/

namespace Loadout

variable {ν : Type}

/-! ### Allocating a node -/

section Lists

variable {α β : Type}

private theorem flatMap_filter_of_nil {f : α → List β} {test : α → Bool}
    (h : ∀ a, ¬ test a = true → f a = []) (as : List α) :
    (as.filter test).flatMap f = as.flatMap f := by
  induction as with
  | nil => rfl
  | cons a as ih =>
    by_cases ha : test a = true
    · rw [List.filter_cons_of_pos ha, List.flatMap_cons, List.flatMap_cons, ih]
    · rw [List.filter_cons_of_neg ha, List.flatMap_cons, h a ha, List.nil_append, ih]

/-- Whether a number is in a set does not show in what the others come to, in order. -/
theorem flatMap_insert_eq_erase {f : Nat → List β} {id : Nat} (h : f id = [])
    (s : Std.ExtTreeSet Nat) : (s.insert id).toList.flatMap f = (s.erase id).toList.flatMap f := by
  have hsorted (s : Std.ExtTreeSet Nat) : s.toList.Pairwise (· < ·) := by
    have hordered : s.toList.Pairwise fun j k => compare j k = .lt :=
      Std.ExtTreeSet.ordered_toList
    exact hordered.imp Nat.compare_eq_lt.mp
  have hothers : (s.insert id).toList.filter (· != id) = (s.erase id).toList.filter (· != id) := by
    refine ((hsorted _).filter _).eq_of_mem_iff ((hsorted _).filter _) fun k => ?_
    simp only [List.mem_filter, Std.ExtTreeSet.mem_toList, Std.ExtTreeSet.mem_insert,
      Std.ExtTreeSet.mem_erase, Std.compare_eq_iff_eq, bne_iff_ne, ne_eq]
    refine and_congr_left fun hk => ?_
    rw [eq_comm (a := id), or_iff_right hk, and_iff_right hk]
  have hnil (k : Nat) (hk : ¬ (k != id) = true) : f k = [] := by
    rw [bne_iff_ne, not_not] at hk
    rw [hk, h]
  rw [← flatMap_filter_of_nil hnil, hothers, flatMap_filter_of_nil hnil]

end Lists

namespace Build

variable (b : Build ν) (id : Nat)

/-- The jewels in allocated sockets, in order. -/
def socketed : List (Nat × Item) :=
  b.jewels.toList.filter fun entry => b.nodes.contains entry.1

/-- To allocate a socket adds its jewel to the others and leaves them in order. -/
theorem socketed_reallocate : ∃ before after,
    (b.reallocate [] [id]).socketed = before ++ after ∧
      (b.reallocate [id] []).socketed =
        before ++ (b.jewels[id]?).toList.map (id, ·) ++ after := by
  set without : Nat × Item → Bool := fun entry => (b.nodes.erase id).contains entry.1
  set allocated : Nat × Item → Bool := fun entry => (b.nodes.insert id).contains entry.1
  change ∃ before after, b.jewels.toList.filter without = before ++ after ∧
    b.jewels.toList.filter allocated = before ++ (b.jewels[id]?).toList.map (id, ·) ++ after
  have hothers {entries : List (Nat × Item)} (h : ∀ entry ∈ entries, entry.1 ≠ id) :
      entries.filter allocated = entries.filter without := by
    refine List.filter_congr fun entry hentry => ?_
    have hne : compare id entry.1 ≠ .eq := mt Std.LawfulEqOrd.eq_of_compare (h entry hentry).symm
    simp only [allocated, without, Std.ExtTreeSet.contains_insert, Std.ExtTreeSet.contains_erase,
      beq_eq_false_iff_ne.mpr hne, bne_iff_ne.mpr hne, Bool.false_or, Bool.true_and]
  have hhere (jewel : Item) : allocated (id, jewel) = true ∧ ¬ without (id, jewel) = true := by
    simp [allocated, without]
  cases hjewel : b.jewels[id]? with
  | none =>
    refine ⟨b.jewels.toList.filter without, [], (List.append_nil _).symm, ?_⟩
    rw [Option.toList_none, List.map_nil, List.append_nil, List.append_nil]
    refine hothers fun entry hentry hkey => ?_
    have hsome := Std.ExtTreeMap.mem_toList_iff_getElem?_eq_some.mp hentry
    rw [hkey, hjewel] at hsome
    cases hsome
  | some jewel =>
    obtain ⟨before, after, hlist⟩ :=
      List.append_of_mem (Std.ExtTreeMap.mem_toList_iff_getElem?_eq_some.mpr hjewel)
    have hdistinct : b.jewels.toList.Pairwise fun entry other => entry.1 ≠ other.1 :=
      Std.ExtTreeMap.distinct_keys_toList.imp fun hne heq =>
        hne (Std.compare_eq_iff_eq.mpr heq)
    rw [hlist, List.pairwise_append] at hdistinct
    obtain ⟨-, hafter, hbefore⟩ := hdistinct
    refine ⟨before.filter without, after.filter without, ?_, ?_⟩
    · rw [hlist, List.filter_append, List.filter_cons_of_neg (hhere jewel).2]
    · rw [hlist, List.filter_append, List.filter_cons_of_pos (hhere jewel).1,
        hothers fun entry hentry => hbefore entry hentry _ List.mem_cons_self,
        hothers fun entry hentry => ((List.pairwise_cons.mp hafter).1 entry hentry).symm]
      simp

end Build

/-! ### The passive layer -/

section Layer

variable [Scalar ν]

theorem Layer.node_unknown (g : Grammar ν) {tree : Tree ν} {id : Nat} (h : tree.node? id = none)
    (masteries : Std.ExtTreeMap Nat Nat) : node g tree masteries id = [] := by
  rw [node, h]

/-- What the jewel in a socket grants once the socket is allocated. -/
def Layer.socket (g : Grammar ν) (b : Build ν) (id : Nat) : List (Modifier ν) :=
  (b.jewels[id]?).toList.flatMap (jewel g id)

theorem Layer.socket_eq_nil_iff (g : Grammar ν) (b : Build ν) (id : Nat) :
    socket g b id = [] ↔ ∀ worn, b.jewels[id]? = some worn → jewel g id worn = [] := by
  simp only [socket, List.flatMap_eq_nil_iff, Option.mem_toList]

/-- To allocate an unknown node adds to the passive layer what the jewel in it grants, and leaves
the rest in order. -/
theorem Layer.passives_unknown (g : Grammar ν) {tree : Tree ν} (b : Build ν) {id : Nat}
    (h : tree.node? id = none) : ∃ before after,
      passives g tree (b.reallocate [] [id]) = before ++ after ∧
        passives g tree (b.reallocate [id] []) = before ++ socket g b id ++ after := by
  obtain ⟨earlier, later, hwithout, hallocated⟩ := b.socketed_reallocate id
  have hpassives (b : Build ν) : passives g tree b =
      startingAttributes tree b.className ++ b.nodes.toList.flatMap (node g tree b.masteries) ++
        b.socketed.flatMap fun entry => jewel g entry.1 entry.2 := rfl
  have hnodes : (b.reallocate [id] []).nodes.toList.flatMap (node g tree b.masteries) =
      (b.reallocate [] [id]).nodes.toList.flatMap (node g tree b.masteries) :=
    flatMap_insert_eq_erase (node_unknown g h b.masteries) b.nodes
  refine ⟨startingAttributes tree b.className ++
    (b.reallocate [] [id]).nodes.toList.flatMap (node g tree b.masteries) ++
      earlier.flatMap fun entry => jewel g entry.1 entry.2,
    later.flatMap fun entry => jewel g entry.1 entry.2, ?_, ?_⟩
  · rw [hpassives, hwithout, List.flatMap_append, ← List.append_assoc]
    rfl
  · rw [hpassives, hallocated, List.flatMap_append, List.flatMap_append, List.flatMap_map, socket,
      ← List.append_assoc, ← List.append_assoc, ← hnodes]
    rfl

end Layer

namespace GameData

/-- With a node that the tree does not know allocated, the passive store has the modifiers of the
jewel in it besides the others, whose order is the same. So it is the same store as without the node
exactly when there is no such jewel or it grants nothing. Mastery selections make no difference. -/
theorem passives_unknown_iff [Scalar ν] (data : GameData ν) (b : Build ν) {id : Nat}
    (hid : data.tree.node? id = none) (version : Nat) :
    let without := (data.passives (b.reallocate [] [id]) version).store.toList
    let allocated := (data.passives (b.reallocate [id] []) version).store.toList
    (allocated = without ↔
        ∀ worn, b.jewels[id]? = some worn → Layer.jewel data.grammar id worn = []) ∧
      ∃ before after, without = before ++ after ∧
        allocated = before ++ Layer.socket data.grammar b id ++ after := by
  intro without allocated
  obtain ⟨before, after, hwithout, hallocated⟩ := Layer.passives_unknown data.grammar b hid
  have hwithout : without = before ++ after := (Store.toList_ofList _).trans hwithout
  have hallocated : allocated = before ++ Layer.socket data.grammar b id ++ after :=
    (Store.toList_ofList _).trans hallocated
  refine ⟨?_, before, after, hwithout, hallocated⟩
  rw [hwithout, hallocated, ← Layer.socket_eq_nil_iff, List.append_cancel_right_eq,
    List.append_right_eq_self]

end GameData

/-! ### A socket that the tree does not know -/

/-- A known line that adds two strength. -/
def KnownRow.keen : KnownRow Float where
  text := "keen"
  effects := [{ stat := "Strength", kind := .base, value := .number 2, scale := 1 }]

/-- A game with the line and an empty tree. -/
def GameData.keen : GameData Float where
  grammar := .ofLine .keen
  tree := {}

/-- A build with a jewel of the line in a socket, and with a mastery selected for another node. -/
def Build.keen : Build Float :=
  { (.ofClass "Witch" : Build Float) with
    masteries := .insert ∅ 7 1
    jewels := .insert ∅ 999 { id := "cobalt", explicits := ["keen"] } }

private theorem KnownRow.plain_keen : keen.Plain where
  text := by decide
  normal := by decide +kernel
  ranges := by decide +kernel
  flags := by decide +kernel
  isLocal := rfl
  displayOnly := rfl

namespace GameData

/-- The node of the mastery is unknown and has no jewel, so it makes no difference. -/
theorem passives_unknown_iff_mastery :
    keen.tree.node? 7 = none ∧ (∀ worn, Build.keen.jewels[7]? ≠ some worn) ∧
      (keen.passives (Build.keen.reallocate [7] []) 1).store.toList =
        (keen.passives (Build.keen.reallocate [] [7]) 1).store.toList := by
  have hid : keen.tree.node? 7 = none := rfl
  have hempty (worn : Item) : Build.keen.jewels[7]? ≠ some worn := by
    rw [Build.keen, Std.ExtTreeMap.getElem?_insert, if_neg (by decide)]
    exact nofun
  exact ⟨hid, hempty, (passives_unknown_iff keen .keen hid 1).1.mpr fun worn hworn =>
    absurd hworn (hempty worn)⟩

/-- The socket of the jewel is unknown, and the passive store gains the jewel's strength all the
same. -/
theorem passives_keen :
    Grammar.ofTables? NamedPattern.compile { known := [.keen] } = .ok keen.grammar ∧
      keen.tree.node? 999 = none ∧
      (keen.passives (Build.keen.reallocate [] [999]) 1).store.toList = [] ∧
      (keen.passives (Build.keen.reallocate [999] []) 1).store.toList =
        [{ stat := "Strength", kind := .base, value := .number 2,
           origin := ⟨.jewel, some "999"⟩ }] := by
  have hid : keen.tree.node? 999 = none := rfl
  have hwithout : Layer.passives keen.grammar keen.tree (Build.keen.reallocate [] [999]) = [] := rfl
  have hgranted : Layer.socket keen.grammar .keen 999 =
      KnownRow.keen.effects.map (·.modifier ⟨.jewel, some "999"⟩) := by
    rw [Layer.socket, Build.keen, Std.ExtTreeMap.getElem?_insert_self, Option.toList_some,
      List.flatMap_singleton]
    exact KnownRow.plain_keen.modifiersOf ⟨.jewel, some "999"⟩
  obtain ⟨before, after, hnone, hall⟩ := Layer.passives_unknown keen.grammar .keen hid
  obtain ⟨rfl, rfl⟩ := List.append_eq_nil_iff.mp (hnone.symm.trans hwithout)
  refine ⟨KnownRow.plain_keen.ofTables? _, hid, ?_, ?_⟩
  · rw [passives, Store.toList_ofList, hwithout]
  · rw [passives, Store.toList_ofList, hall, hgranted]
    rfl

end GameData

end Loadout
