import Std.Data.ExtTreeSet
import Loadout.Settings

/-!
# Builds

A build is everything that a player chose: class, passive nodes, jewels, the items of
two weapon sets, skills and settings.

## Main definitions

* `Item`, `Gem`, `SkillGroup`: what a build consists of
* `WeaponSet`, `Slot`: where an item is worn; slots are ordered by set and then by name
* `Build`: all choices
* `Build.setItem`, `Build.setJewel`, `Build.reallocate`: single edits
* `Build.toDocument`, `Build.ofDocument?`: the written form
-/

namespace Loadout

/-- An item or a jewel. -/
structure Item where
  id : String := ""
  name : String := ""
  baseType : String := ""
  implicits : List String := []
  explicits : List String := []
  deriving DecidableEq

namespace Item

/-- The lines of an item, implicit ones first. -/
def lines (i : Item) : List String :=
  i.implicits ++ i.explicits

/-- The item with one more implicit line. -/
def withImplicit (i : Item) (line : String) : Item :=
  { i with implicits := i.implicits ++ [line] }

/-- The item with one more explicit line. -/
def withExplicit (i : Item) (line : String) : Item :=
  { i with explicits := i.explicits ++ [line] }

end Item

/-- A skill gem. -/
structure Gem where
  name : String := ""
  level : Nat := 20
  quality : Nat := 0
  enabled : Bool := true
  stats : List String := []
  deriving DecidableEq

/-- Gems that are linked. -/
structure SkillGroup where
  label : String := ""
  enabled : Bool := true
  slot : Option String := none
  gems : List Gem := []
  deriving DecidableEq

/-- One of the two weapon sets. -/
inductive WeaponSet where
  | first
  | second
  deriving DecidableEq, Repr, Inhabited

namespace WeaponSet

/-- The place of a set in the order. -/
def rank : WeaponSet → Nat
  | first => 0
  | second => 1

/-- The name of a set. -/
def name : WeaponSet → String
  | first => "First"
  | second => "Second"

/-- The set of a name. -/
def ofName? (s : String) : Option WeaponSet :=
  [first, second].find? fun set => set.name == s

end WeaponSet

/-- Where an item is worn. -/
structure Slot where
  set : WeaponSet
  name : String
  deriving DecidableEq, Repr

namespace Slot

instance : Ord Slot :=
  ⟨compareLex (compareOn fun slot => slot.set.rank) (compareOn fun slot => slot.name)⟩

instance : Std.TransOrd Slot :=
  inferInstanceAs (Std.TransCmp (compareLex (compareOn fun slot : Slot => slot.set.rank)
    (compareOn fun slot => slot.name)))

instance : Std.LawfulEqOrd Slot where
  eq_of_compare {a b} h := by
    obtain ⟨sa, na⟩ := a
    obtain ⟨sb, nb⟩ := b
    have h : (compare sa.rank sb.rank).then (compare na nb) = .eq := h
    obtain ⟨hs, hn⟩ := Ordering.then_eq_eq.mp h
    have hn := Std.LawfulEqOrd.eq_of_compare hn
    have hs := Std.LawfulEqOrd.eq_of_compare hs
    subst hn
    cases sa <;> cases sb <;> first | rfl | exact absurd hs (by decide)

/-- The slot's name, marked when it belongs to the second set. -/
def text (s : Slot) : String :=
  match s.set with
  | .first => s.name
  | .second => s.name ++ " (swap)"

end Slot

/-- Everything that a player chose. -/
structure Build (ν : Type) where
  className : String := ""
  ascendancy : Option String := none
  level : Nat := 0
  nodes : Std.ExtTreeSet Nat := ∅
  /-- The effect selected for each mastery node. -/
  masteries : Std.ExtTreeMap Nat Nat := ∅
  /-- The jewel in each socket. -/
  jewels : Std.ExtTreeMap Nat Item := ∅
  items : Std.ExtTreeMap Slot Item := ∅
  activeSet : WeaponSet := .first
  skills : List SkillGroup := []
  settings : Settings ν
  deriving BEq

namespace Build

variable {ν : Type}

/-- A build of a class with nothing chosen. -/
def ofClass [Scalar ν] (name : String) : Build ν :=
  { className := name, level := 1, settings := .standard }

/-- The item in a slot. -/
def item? (b : Build ν) (slot : Slot) : Option Item :=
  b.items[slot]?

/-- The build with an item put into a slot, or the slot cleared. -/
def setItem (b : Build ν) (slot : Slot) : Option Item → Build ν
  | some item => { b with items := b.items.insert slot item }
  | none => { b with items := b.items.erase slot }

/-- The build with a jewel put into a socket, or the socket cleared. -/
def setJewel (b : Build ν) (socket : Nat) : Option Item → Build ν
  | some jewel => { b with jewels := b.jewels.insert socket jewel }
  | none => { b with jewels := b.jewels.erase socket }

/-- The build with nodes removed and then others added. -/
def reallocate (b : Build ν) (added removed : List Nat) : Build ν :=
  { b with nodes := added.foldl .insert (removed.foldl .erase b.nodes) }

/-- The occupied slots, in order. -/
def slots (b : Build ν) : List Slot :=
  b.items.keys

end Build

/-! ### Written form -/

variable {ν : Type}

/-- A list of lines. -/
def linesToDocument (lines : List String) : Document ν :=
  .ofList .text lines

/-- Reads a list of lines. -/
def linesOfDocument? (d : Document ν) : Option (List String) :=
  d.toList? Document.toText?

namespace Item

/-- An item with all its fields. -/
def toDocument (i : Item) : Document ν :=
  .record [("id", .text i.id), ("name", .text i.name), ("base_type", .text i.baseType),
    ("implicits", linesToDocument i.implicits), ("explicits", linesToDocument i.explicits)]

/-- Reads an item; any field may be left out. -/
def ofDocument? (d : Document ν) : Option Item := do
  let f ← d.fields? ["id", "name", "base_type", "implicits", "explicits"]
  return {
    id := ← f.orElse? "id" "" Document.toText?
    name := ← f.orElse? "name" "" Document.toText?
    baseType := ← f.orElse? "base_type" "" Document.toText?
    implicits := ← f.orElse? "implicits" [] linesOfDocument?
    explicits := ← f.orElse? "explicits" [] linesOfDocument? }

end Item

namespace Gem

/-- A gem with all its fields. -/
def toDocument (g : Gem) : Document ν :=
  .record [("name", .text g.name), ("level", .ofCount g.level), ("quality", .ofCount g.quality),
    ("enabled", .bool g.enabled), ("stats", linesToDocument g.stats)]

/-- Reads a gem; any field may be left out. -/
def ofDocument? (d : Document ν) : Option Gem := do
  let f ← d.fields? ["name", "level", "quality", "enabled", "stats"]
  return {
    name := ← f.orElse? "name" "" Document.toText?
    level := ← f.orElse? "level" 20 Document.toCount?
    quality := ← f.orElse? "quality" 0 Document.toCount?
    enabled := ← f.orElse? "enabled" true Document.toBool?
    stats := ← f.orElse? "stats" [] linesOfDocument? }

end Gem

namespace SkillGroup

/-- A skill group with all its fields. -/
def toDocument (g : SkillGroup) : Document ν :=
  .record [("label", .text g.label), ("enabled", .bool g.enabled),
    ("slot", .ofOption .text g.slot), ("gems", .ofList Gem.toDocument g.gems)]

/-- Reads a skill group; any field may be left out. -/
def ofDocument? (d : Document ν) : Option SkillGroup := do
  let f ← d.fields? ["label", "enabled", "slot", "gems"]
  return {
    label := ← f.orElse? "label" "" Document.toText?
    enabled := ← f.orElse? "enabled" true Document.toBool?
    slot := ← f.orElse? "slot" none (Document.toOption? Document.toText?)
    gems := ← f.orElse? "gems" [] (Document.toList? Gem.ofDocument?) }

end SkillGroup

namespace Build

/-- The items of one weapon set by the name of their slot. -/
def itemsOfSet (items : Std.ExtTreeMap Slot Item) (set : WeaponSet) : Document ν :=
  .record ((items.toList.filter fun entry => entry.1.set == set).map fun entry =>
    (entry.1.name, entry.2.toDocument))

/-- Items with those of one weapon set added. -/
def addItemsOfSet? (items : Std.ExtTreeMap Slot Item) (set : WeaponSet) (d : Document ν) :
    Option (Std.ExtTreeMap Slot Item) := do
  let worn : Std.ExtTreeMap String Item ← d.toMap? some Item.ofDocument?
  return worn.toList.foldl (fun items entry => items.insert ⟨set, entry.1⟩ entry.2) items

/-- Reads the items of both weapon sets, one record for each. -/
def itemsOfDocument? : Document ν → Option (Std.ExtTreeMap Slot Item)
  | .list [first, second] => do
    let items ← addItemsOfSet? ∅ .first first
    addItemsOfSet? items .second second
  | _ => none

/-- A build with all its fields. -/
def toDocument (b : Build ν) : Document ν :=
  .record [
    ("class", .text b.className),
    ("ascendancy", .ofOption .text b.ascendancy),
    ("level", .ofCount b.level),
    ("allocated_nodes", .ofList .ofCount b.nodes.toList),
    ("mastery_selections", .ofMap (fun node : Nat => toString node) .ofCount b.masteries),
    ("jewels", .ofMap (fun socket : Nat => toString socket) Item.toDocument b.jewels),
    ("items", .list [itemsOfSet b.items .first, itemsOfSet b.items .second]),
    ("active_weapon_set", .text b.activeSet.name),
    ("skill_groups", .ofList SkillGroup.toDocument b.skills),
    ("config", b.settings.toDocument)]

/-- Reads a build; any field may be left out. -/
def ofDocument? [Scalar ν] (d : Document ν) : Option (Build ν) := do
  let f ← d.fields? ["class", "ascendancy", "level", "allocated_nodes", "mastery_selections",
    "jewels", "items", "active_weapon_set", "skill_groups", "config"]
  return {
    className := ← f.orElse? "class" "" Document.toText?
    ascendancy := ← f.orElse? "ascendancy" none (Document.toOption? Document.toText?)
    level := ← f.orElse? "level" 0 Document.toCount?
    nodes := ← f.orElse? "allocated_nodes" ∅ fun d =>
      (d.toList? Document.toCount?).map fun ids => .ofList ids
    masteries := ← f.orElse? "mastery_selections" ∅
      (Document.toMap? Document.countKey? Document.toCount?)
    jewels := ← f.orElse? "jewels" ∅ (Document.toMap? Document.countKey? Item.ofDocument?)
    items := ← f.orElse? "items" ∅ itemsOfDocument?
    activeSet := ← f.orElse? "active_weapon_set" .first (Document.toName? WeaponSet.ofName?)
    skills := ← f.orElse? "skill_groups" [] (Document.toList? SkillGroup.ofDocument?)
    settings := ← f.orElse? "config" .standard Settings.ofDocument? }

end Build

end Loadout
