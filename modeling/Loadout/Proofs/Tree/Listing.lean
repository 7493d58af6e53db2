import Mathlib.Data.Finset.Card
import Mathlib.Data.Finset.Dedup
import Std.Data.ExtTreeMap.Lemmas
import Loadout.Tree

/-!
# Listings of a tree

A listing may name an identifier many times and in any order. The tree of a listing has the last
node of each identifier, and the listing of a tree has its nodes in order, once each. So going from
a listing to a tree and back leaves its normal form, and a tree comes back unchanged. Both rest on
an invariant that every way of building a tree keeps: a node stands under its own identifier.

## Main definitions

* `TreeListing.last?`: the node of a listing that counts for an identifier
* `TreeListing.IsNormalForm`: a listing in order with the nodes that count in another
* `Tree.Keyed`: each node stands under its own identifier
* `Tree.Built`: trees that are built up node by node and class by class

## Main results

* `Tree.node?_ofListing`, `Tree.size_ofListing`: what the tree of a listing holds
* `Tree.Keyed.isNormalForm_toListing`, `Tree.Keyed.ofListing_toListing`: a tree in its listing
* `Tree.Keyed.mergeSort_eq_toListing`: the order in which the nodes are collected has no bearing
* `Tree.listing_normalForm`: listings have a normal form, and trees come back
-/

namespace Loadout

variable {ν : Type}

/-- The node that counts for an identifier in a listing: the last that carries it. -/
def TreeListing.last? (l : TreeListing ν) (id : Nat) : Option TreeNode :=
  (l.nodes.filter fun n => n.id == id).getLast?

/-- The normal form of a listing: the same classes and the nodes that count, in order. -/
structure TreeListing.IsNormalForm (l normal : TreeListing ν) : Prop where
  classes_eq : normal.classes = l.classes
  ascending : normal.nodes.Pairwise fun m n => m.id < n.id
  mem_iff : ∀ n, n ∈ normal.nodes ↔ l.last? n.id = some n

theorem TreeListing.id_of_last? {l : TreeListing ν} {id : Nat} {n : TreeNode}
    (h : l.last? id = some n) : n ∈ l.nodes ∧ n.id = id := by
  obtain ⟨hmem, hid⟩ := List.mem_filter.mp (List.mem_of_getLast? h)
  exact ⟨hmem, beq_iff_eq.mp hid⟩

theorem TreeListing.isSome_last? {l : TreeListing ν} {n : TreeNode} (h : n ∈ l.nodes) :
    (l.last? n.id).isSome := by
  have hmem : n ∈ l.nodes.filter fun m => m.id == n.id :=
    List.mem_filter.mpr ⟨h, beq_iff_eq.mpr rfl⟩
  rw [last?, List.getLast?_eq_some_getLast (List.ne_nil_of_mem hmem)]
  rfl

namespace Tree

variable {t : Tree ν}

/-! ### What a tree answers -/

theorem node?_insert (t : Tree ν) (n : TreeNode) (id : Nat) :
    (t.insert n).node? id = if n.id = id then some n else t.node? id := by
  simp only [node?, insert, Std.ExtTreeMap.getElem?_insert, Std.compare_eq_iff_eq]

/-- Of nodes that are inserted one after the other the last counts. -/
theorem node?_foldl_insert (nodes : List TreeNode) (t : Tree ν) (id : Nat) :
    (nodes.foldl insert t).node? id =
      (nodes.filter fun n => n.id == id).getLast?.or (t.node? id) := by
  induction nodes generalizing t with
  | nil => rfl
  | cons n nodes ih =>
    rw [List.foldl_cons, ih, node?_insert]
    by_cases h : n.id = id
    · rw [if_pos h, List.filter_cons, if_pos (beq_iff_eq.mpr h), List.getLast?_cons]
      cases (nodes.filter fun n => n.id == id).getLast? <;> rfl
    · rw [if_neg h, List.filter_cons, if_neg (mt beq_iff_eq.mp h)]

theorem classes_foldl_insert (nodes : List TreeNode) (t : Tree ν) :
    (nodes.foldl insert t).classes = t.classes :=
  List.foldlRecOn (motive := fun t' : Tree ν => t'.classes = t.classes) nodes _ rfl
    fun _ h _ _ => h

/-- The tree of a listing has the nodes that count. -/
theorem node?_ofListing (l : TreeListing ν) (id : Nat) :
    (ofListing l).node? id = l.last? id := by
  rw [ofListing, node?_foldl_insert]
  exact Option.or_none

theorem classes_ofListing (l : TreeListing ν) : (ofListing l).classes = l.classes :=
  classes_foldl_insert l.nodes _

theorem ext_node? {t t' : Tree ν} (hclasses : t.classes = t'.classes)
    (hnodes : ∀ id, t.node? id = t'.node? id) : t = t' := by
  obtain ⟨classes, nodes⟩ := t
  obtain ⟨classes', nodes'⟩ := t'
  exact (Tree.mk.injEq ..).mpr ⟨hclasses, Std.ExtTreeMap.ext_getElem? fun {id} => hnodes id⟩

/-! ### The invariant -/

/-- Each node stands under its own identifier. -/
def Keyed (t : Tree ν) : Prop :=
  ∀ id n, t.node? id = some n → n.id = id

theorem keyed_empty : ({} : Tree ν).Keyed :=
  fun _ _ h => nomatch (Std.ExtTreeMap.getElem?_empty.symm.trans h)

theorem keyed_ofListing (l : TreeListing ν) : (ofListing l).Keyed := by
  intro id n h
  rw [node?_ofListing] at h
  exact (TreeListing.id_of_last? h).2

/-- Trees that are built up from nothing, node by node and class by class in any order. -/
inductive Built : Tree ν → Prop
  | empty : Built {}
  | insert {t : Tree ν} (h : Built t) (n : TreeNode) : Built (t.insert n)
  | withClass {t : Tree ν} (h : Built t) (name : String) (start : Attributes ν) :
      Built (t.withClass name start)

namespace Keyed

theorem insert (h : t.Keyed) (n : TreeNode) : (t.insert n).Keyed := by
  intro id m hm
  rw [node?_insert] at hm
  split at hm
  · next hid => exact Option.some.inj hm ▸ hid
  · exact h id m hm

theorem withClass (h : t.Keyed) (name : String) (start : Attributes ν) :
    (t.withClass name start).Keyed :=
  h

end Keyed

/-- Every way of building a tree keeps each node under its own identifier. -/
theorem Built.keyed (h : t.Built) : t.Keyed := by
  induction h with
  | empty => exact keyed_empty
  | insert _ n ih => exact ih.insert n
  | withClass _ name start ih => exact ih.withClass name start

/-! ### The listing of a tree -/

theorem mem_nodes_toListing {n : TreeNode} :
    n ∈ t.toListing.nodes ↔ ∃ id, t.node? id = some n := by
  simp only [toListing, List.mem_map, Prod.exists, exists_eq_right,
    Std.ExtTreeMap.mem_toList_iff_getElem?_eq_some, node?]

namespace Keyed

variable (h : t.Keyed)

include h

theorem mem_nodes_toListing_iff {n : TreeNode} :
    n ∈ t.toListing.nodes ↔ t.node? n.id = some n := by
  rw [mem_nodes_toListing]
  exact ⟨fun ⟨id, hn⟩ => (h id n hn).symm ▸ hn, fun hn => ⟨n.id, hn⟩⟩

theorem ascending_toListing : t.toListing.nodes.Pairwise fun m n => m.id < n.id := by
  have hid {entry : Nat × TreeNode} (hentry : entry ∈ t.nodes.toList) :
      entry.2.id = entry.1 :=
    h entry.1 entry.2 (Std.ExtTreeMap.mem_toList_iff_getElem?_eq_some.mp hentry)
  refine List.pairwise_map.mpr (Std.ExtTreeMap.ordered_keys_toList.imp_of_mem ?_)
  intro entry entry' hentry hentry' hlt
  rw [hid hentry, hid hentry']
  exact Nat.compare_eq_lt.mp hlt

/-- The listing of a tree counts the nodes that the tree has. -/
theorem last?_toListing (id : Nat) : t.toListing.last? id = t.node? id := by
  refine Option.ext fun n => ⟨fun hn => ?_, fun hn => ?_⟩
  · obtain ⟨hmem, rfl⟩ := TreeListing.id_of_last? hn
    exact h.mem_nodes_toListing_iff.mp hmem
  · obtain rfl := h id n hn
    obtain ⟨m, hm⟩ := Option.isSome_iff_exists.mp
      (TreeListing.isSome_last? (h.mem_nodes_toListing_iff.mpr hn))
    -- What counts for the identifier is in the tree under it, and so is `n`.
    obtain ⟨hmem, hid⟩ := TreeListing.id_of_last? hm
    have hm' := h.mem_nodes_toListing_iff.mp hmem
    rw [hid, hn] at hm'
    rw [hm, hm']

/-- The listing of a tree makes the tree again. -/
theorem ofListing_toListing : ofListing t.toListing = t :=
  ext_node? (classes_ofListing _) fun id => (node?_ofListing _ id).trans (h.last?_toListing id)

/-- In whatever order the nodes are collected, sorting them by identifier lists them. -/
theorem mergeSort_eq_toListing {nodes : List TreeNode}
    (hnodes : nodes.Perm (t.nodes.toList.map (·.2))) :
    (nodes.mergeSort fun m n => m.id ≤ n.id) = t.toListing.nodes := by
  have hperm : (nodes.mergeSort fun m n => m.id ≤ n.id).Perm t.toListing.nodes :=
    (List.mergeSort_perm nodes _).trans hnodes
  have hsorted : (nodes.mergeSort fun m n => m.id ≤ n.id).Pairwise fun m n => m.id ≤ n.id := by
    have htrans (a b c : TreeNode) : decide (a.id ≤ b.id) = true → decide (b.id ≤ c.id) = true →
        decide (a.id ≤ c.id) = true := by simpa using Nat.le_trans
    have htotal (a b : TreeNode) : (decide (a.id ≤ b.id) || decide (b.id ≤ a.id)) = true := by
      simpa using Nat.le_total a.id b.id
    simpa using List.pairwise_mergeSort htrans htotal nodes
  refine List.Perm.eq_of_pairwise (fun m n hm hn hle hge => ?_) hsorted
    (h.ascending_toListing.imp Nat.le_of_lt) hperm
  -- Two nodes that sorting does not tell apart have one identifier, so they are one node.
  have hm := h.mem_nodes_toListing_iff.mp (hperm.mem_iff.mp hm)
  have hn := h.mem_nodes_toListing_iff.mp hn
  rw [Nat.le_antisymm hle hge, hn] at hm
  exact (Option.some.inj hm).symm

end Keyed

/-! ### Normal forms -/

/-- The listing of a tree that was made of a listing is its normal form. -/
theorem isNormalForm_toListing (l : TreeListing ν) : l.IsNormalForm (ofListing l).toListing where
  classes_eq := classes_ofListing l
  ascending := (keyed_ofListing l).ascending_toListing
  mem_iff n := by rw [(keyed_ofListing l).mem_nodes_toListing_iff, node?_ofListing]

/-- The tree of a listing has as many nodes as the listing has identifiers. -/
theorem size_ofListing (l : TreeListing ν) :
    (ofListing l).size = (l.nodes.map (·.id)).toFinset.card := by
  have hnormal := isNormalForm_toListing l
  have hnodup : ((ofListing l).toListing.nodes.map (·.id)).Nodup :=
    List.pairwise_map.mpr (hnormal.ascending.imp Nat.ne_of_lt)
  have hids : (l.nodes.map (·.id)).toFinset =
      ((ofListing l).toListing.nodes.map (·.id)).toFinset := by
    ext id
    simp only [List.mem_toFinset, List.mem_map]
    constructor
    · rintro ⟨n, hn, rfl⟩
      obtain ⟨m, hm⟩ := Option.isSome_iff_exists.mp (TreeListing.isSome_last? hn)
      have hid := (TreeListing.id_of_last? hm).2
      exact ⟨m, (hnormal.mem_iff m).mpr (hid.symm ▸ hm), hid⟩
    · rintro ⟨n, hn, rfl⟩
      exact ⟨n, (TreeListing.id_of_last? ((hnormal.mem_iff n).mp hn)).1, rfl⟩
  rw [hids, List.toFinset_card_of_nodup hnodup, List.length_map, toListing, List.length_map,
    Std.ExtTreeMap.length_toList, size]

/-- For any listing: its tree answers each identifier with the last node that carries it and has as
many nodes as there are identifiers, the listing of that tree has the same classes and just those
last nodes, strictly ascending, and going to a tree and back once more changes nothing. And for any
tree that is built up node by node and class by class in any order: the tree of its listing answers
every identifier and every class alike. -/
theorem listing_normalForm :
    (∀ l : TreeListing ν, (∀ id, (ofListing l).node? id = l.last? id) ∧
      (ofListing l).size = (l.nodes.map (·.id)).toFinset.card ∧
      l.IsNormalForm (ofListing l).toListing ∧
      (ofListing (ofListing l).toListing).toListing = (ofListing l).toListing) ∧
    ∀ t : Tree ν, t.Built → (∀ id, (ofListing t.toListing).node? id = t.node? id) ∧
      ∀ name, (ofListing t.toListing).class? name = t.class? name := by
  refine ⟨fun l => ⟨node?_ofListing l, size_ofListing l, isNormalForm_toListing l, ?_⟩,
    fun t ht => ?_⟩
  · rw [(keyed_ofListing l).ofListing_toListing]
  · rw [ht.keyed.ofListing_toListing]
    exact ⟨fun _ => rfl, fun _ => rfl⟩

/-- Of two nodes with one identifier the later is kept, and the listing comes in order. A tree with
a node that was put in twice comes back. -/
theorem listing_normalForm_repeated :
    let l : TreeListing Rat := { nodes := [{ id := 7, name := "Toughness" },
      { id := 3, name := "Fury" }, { id := 7, name := "Resolve" }] }
    let t : Tree Rat := ((({} : Tree Rat).insert { id := 9, name := "Old" }).withClass "Duelist"
      { strength := 23, dexterity := 23, intelligence := 14 }).insert { id := 9, name := "New" }
    ((ofListing l).node? 7).map (·.name) = some "Resolve" ∧
      (ofListing l).node? 7 = l.last? 7 ∧
      (ofListing l).toListing.nodes.map (·.name) = ["Fury", "Resolve"] ∧
      l.IsNormalForm (ofListing l).toListing ∧
      t.Built ∧ (t.node? 9).map (·.name) = some "New" ∧
      (ofListing t.toListing).node? 9 = t.node? 9 ∧
      (ofListing t.toListing).class? "Duelist" = t.class? "Duelist" := by
  intro l t
  have ht : t.Built := ((Built.empty.insert _).withClass _ _).insert _
  obtain ⟨hlisting, htree⟩ := listing_normalForm (ν := Rat)
  obtain ⟨hnode, -, hnormal, -⟩ := hlisting l
  obtain ⟨hnodes, hclasses⟩ := htree t ht
  exact ⟨by decide +kernel, hnode 7, by decide +kernel, hnormal, ht, by decide +kernel, hnodes 9,
    hclasses "Duelist"⟩

end Tree

end Loadout
