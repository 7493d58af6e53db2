import Loadout.Attribute
import Loadout.Document.Basic

/-!
# The passive tree

Of the tree a build needs two things: the node of an identifier and the starting
attributes of a class. The written form lists the nodes; of nodes with the same
identifier the last counts, and a tree is written with its nodes in order.

## Main definitions

* `TreeNode`: a node
* `Tree`: nodes by identifier and classes by name
* `TreeListing`: the written form
* `Tree.ofListing`, `Tree.toListing`
-/

namespace Loadout

/-- A node of the passive tree. -/
structure TreeNode where
  id : Nat := 0
  name : String := ""
  stats : List String := []
  isNotable : Bool := false
  isKeystone : Bool := false
  isMastery : Bool := false
  isAscendancy : Bool := false
  isJewelSocket : Bool := false
  /-- The lines of each effect that a mastery offers. -/
  masteryEffects : Std.ExtTreeMap Nat (List String) := ∅
  deriving BEq

/-- Nodes by identifier and starting attributes by class. -/
structure Tree (ν : Type) where
  classes : Std.ExtTreeMap String (Attributes ν) := ∅
  nodes : Std.ExtTreeMap Nat TreeNode := ∅

/-- A tree as it is written. -/
structure TreeListing (ν : Type) where
  classes : Std.ExtTreeMap String (Attributes ν) := ∅
  nodes : List TreeNode := []

namespace Tree

variable {ν : Type}

/-- The node of an identifier. -/
def node? (t : Tree ν) (id : Nat) : Option TreeNode :=
  t.nodes[id]?

/-- The starting attributes of a class. -/
def class? (t : Tree ν) (name : String) : Option (Attributes ν) :=
  t.classes[name]?

/-- The tree with a node put under its identifier. -/
def insert (t : Tree ν) (n : TreeNode) : Tree ν :=
  { t with nodes := t.nodes.insert n.id n }

/-- The tree with the starting attributes of a class. -/
def withClass (t : Tree ν) (name : String) (start : Attributes ν) : Tree ν :=
  { t with classes := t.classes.insert name start }

/-- How many nodes there are. -/
def size (t : Tree ν) : Nat :=
  t.nodes.size

/-- The tree of a listing. -/
def ofListing (l : TreeListing ν) : Tree ν :=
  l.nodes.foldl insert { classes := l.classes }

/-- The listing of a tree, nodes in order. -/
def toListing (t : Tree ν) : TreeListing ν :=
  { classes := t.classes, nodes := t.nodes.toList.map (·.2) }

end Tree

/-! ### Written form -/

variable {ν : Type}

namespace Attributes

/-- Attributes with all their fields. -/
def toDocument (a : Attributes ν) : Document ν :=
  .record [("strength", .float a.strength), ("dexterity", .float a.dexterity),
    ("intelligence", .float a.intelligence)]

/-- Reads attributes; any of them may be left out. -/
def ofDocument? [Scalar ν] (d : Document ν) : Option (Attributes ν) := do
  let f ← d.fields? ["strength", "dexterity", "intelligence"]
  let number (name : String) : Option ν := f.orElse? name Scalar.zero Document.toNumber?
  return {
    strength := ← number "strength"
    dexterity := ← number "dexterity"
    intelligence := ← number "intelligence" }

end Attributes

namespace TreeNode

/-- A node with all its fields. -/
def toDocument (n : TreeNode) : Document ν :=
  .record [
    ("id", .ofCount n.id),
    ("name", .text n.name),
    ("stats", .ofList .text n.stats),
    ("is_notable", .bool n.isNotable),
    ("is_keystone", .bool n.isKeystone),
    ("is_mastery", .bool n.isMastery),
    ("is_ascendancy", .bool n.isAscendancy),
    ("is_jewel_socket", .bool n.isJewelSocket),
    ("mastery_effects", .ofMap (fun effect : Nat => toString effect) (.ofList .text)
      n.masteryEffects)]

/-- Reads a node; any field may be left out. -/
def ofDocument? (d : Document ν) : Option TreeNode := do
  let f ← d.fields? ["id", "name", "stats", "is_notable", "is_keystone", "is_mastery",
    "is_ascendancy", "is_jewel_socket", "mastery_effects"]
  let mark (name : String) : Option Bool := f.orElse? name false Document.toBool?
  let lines (d : Document ν) : Option (List String) := d.toList? Document.toText?
  return {
    id := ← f.orElse? "id" 0 Document.toCount?
    name := ← f.orElse? "name" "" Document.toText?
    stats := ← f.orElse? "stats" [] lines
    isNotable := ← mark "is_notable"
    isKeystone := ← mark "is_keystone"
    isMastery := ← mark "is_mastery"
    isAscendancy := ← mark "is_ascendancy"
    isJewelSocket := ← mark "is_jewel_socket"
    masteryEffects := ← f.orElse? "mastery_effects" ∅ (Document.toMap? Document.countKey? lines) }

end TreeNode

namespace TreeListing

/-- A listing with all its fields. -/
def toDocument (l : TreeListing ν) : Document ν :=
  .record [
    ("classes", .ofMap id Attributes.toDocument l.classes),
    ("nodes", .ofList TreeNode.toDocument l.nodes)]

/-- Reads a listing; either field may be left out. -/
def ofDocument? [Scalar ν] (d : Document ν) : Option (TreeListing ν) := do
  let f ← d.fields? ["classes", "nodes"]
  return {
    classes := ← f.orElse? "classes" ∅ (Document.toMap? some Attributes.ofDocument?)
    nodes := ← f.orElse? "nodes" [] (Document.toList? TreeNode.ofDocument?) }

end TreeListing

namespace Tree

/-- A tree as its listing. -/
def toDocument (t : Tree ν) : Document ν :=
  t.toListing.toDocument

/-- Reads a tree from its listing. -/
def ofDocument? [Scalar ν] (d : Document ν) : Option (Tree ν) :=
  (TreeListing.ofDocument? d).map ofListing

end Tree

end Loadout
