import Loadout.Build
import Loadout.Proofs.Document.Omission

/-!
# Worn items with fields left out

The items of a build are stored in two records, one for each weapon set, under the names of their
slots. Reading puts the items of the first record into the slots of the first set and adds those
of the second. As a slot is a set and a name, neither record gets in the way of the other, and the
items that come back are those that were left, each with the defaults for what it lacks.

## Main definitions

* `Item.without`: an item with the defaults for some fields
* `Omission.slots`: the items of both sets that are left
* `Build.worn`, `Build.wear`: the items of one set, under the names of their slots, and items with
  those of a set put on

## Main results

* `Build.wear_worn`: the items of both sets are all the items
* `Item.ofDocument?_without`: an item is read with the defaults for what is left out
* `Build.itemsOfDocument?_without`: the items of both sets are read as those that are left
-/

namespace Loadout

open Document

variable {ν : Type}

theorem linesOfDocument?_without (lines : List String) (o : Omission) :
    linesOfDocument? ((linesToDocument lines : Document ν).without o) = some lines := by
  rw [linesOfDocument?, linesToDocument, without_ofList fun _ _ => rfl, toList?_ofList toText?_text]

namespace Item

/-- The item with the default for each field that is left out. -/
def without (o : Omission) (i : Item) : Item :=
  let standard : Item := {}
  { id := o.pick "id" standard.id i.id
    name := o.pick "name" standard.name i.name
    baseType := o.pick "base_type" standard.baseType i.baseType
    implicits := o.pick "implicits" standard.implicits i.implicits
    explicits := o.pick "explicits" standard.explicits i.explicits }

theorem without_nothing (i : Item) : i.without .nothing = i := rfl

/-- An item is read with the default for each field that is left out. -/
theorem ofDocument?_without (i : Item) (o : Omission) :
    ofDocument? ((i.toDocument : Document ν).without o) = some (i.without o) := by
  rw [ofDocument?, toDocument, fields?_without]
  case hnames => rfl
  case hnodup => decide
  simp [Fields.orElse?_without, List.lookup_cons, Omission.pick_some, linesOfDocument?_without,
    without]

end Item

/-! ### Weapon sets -/

namespace Build

/-- The items of one weapon set, under the names of their slots. -/
def worn (items : Std.ExtTreeMap Slot Item) (set : WeaponSet) : List (String × Item) :=
  (items.toList.filter fun entry => entry.1.set == set).map fun entry => (entry.1.name, entry.2)

theorem mem_worn {items : Std.ExtTreeMap Slot Item} {set : WeaponSet} {name : String}
    {item : Item} : (name, item) ∈ worn items set ↔ items[(⟨set, name⟩ : Slot)]? = some item := by
  rw [← Std.ExtTreeMap.mem_toList_iff_getElem?_eq_some, worn, List.mem_map]
  constructor
  · rintro ⟨⟨⟨other, otherName⟩, otherItem⟩, hmem, heq⟩
    obtain ⟨hentry, hset⟩ := List.mem_filter.1 hmem
    cases heq
    cases eq_of_beq hset
    exact hentry
  · intro hmem
    exact ⟨(⟨set, name⟩, item), List.mem_filter.2 ⟨hmem, BEq.rfl⟩, rfl⟩

theorem pairwise_worn (items : Std.ExtTreeMap Slot Item) (set : WeaponSet) :
    (worn items set).Pairwise fun a b => a.1 ≠ b.1 := by
  refine List.Pairwise.map _ ?_ (List.Pairwise.and_mem.1 ((pairwise_toList items).filter _))
  rintro ⟨⟨firstSet, firstName⟩, first⟩ ⟨⟨secondSet, secondName⟩, second⟩ ⟨hfirst, hsecond, hne⟩
  cases eq_of_beq (List.mem_filter.1 hfirst).2
  cases eq_of_beq (List.mem_filter.1 hsecond).2
  exact fun hname => hne (congrArg (Slot.mk _) hname)

theorem getElem?_ofList_worn (items : Std.ExtTreeMap Slot Item) (set : WeaponSet)
    (name : String) :
    (Std.ExtTreeMap.ofList (worn items set))[name]? = items[(⟨set, name⟩ : Slot)]? :=
  Option.ext fun item => by
    rw [getElem?_ofList (pairwise_worn items set), lookup_eq_some_iff_mem (pairwise_worn items set),
      mem_worn]

/-- Items with those of one weapon set put on, each in the slot of its name. -/
def wear (set : WeaponSet) (byName : Std.ExtTreeMap String Item)
    (items : Std.ExtTreeMap Slot Item) : Std.ExtTreeMap Slot Item :=
  byName.toList.foldl (fun items entry => items.insert ⟨set, entry.1⟩ entry.2) items

theorem addItemsOfSet?_eq (items : Std.ExtTreeMap Slot Item) (set : WeaponSet) (d : Document ν) :
    addItemsOfSet? items set d =
      (d.toMap? some Item.ofDocument?).map fun byName => wear set byName items := by
  rw [addItemsOfSet?]
  cases d.toMap? some Item.ofDocument? <;> rfl

/-- Each slot of the set takes the item of its name, and the slots of the other set keep theirs. -/
theorem getElem?_wear (set : WeaponSet) (byName : Std.ExtTreeMap String Item)
    (items : Std.ExtTreeMap Slot Item) (slot : Slot) :
    (wear set byName items)[slot]? =
      (if slot.set = set then byName[slot.name]? else none).or items[slot]? := by
  let inSlots := byName.toList.map fun entry => ((⟨set, entry.1⟩ : Slot), entry.2)
  have hdistinct : inSlots.Pairwise fun a b => a.1 ≠ b.1 :=
    List.Pairwise.map _ (fun a b hne heq => hne (Slot.mk.inj heq).2) (pairwise_toList byName)
  have hmem (item : Item) :
      (slot, item) ∈ inSlots ↔ slot.set = set ∧ byName[slot.name]? = some item := by
    rw [← Std.ExtTreeMap.mem_toList_iff_getElem?_eq_some, List.mem_map]
    constructor
    · rintro ⟨entry, hentry, heq⟩
      cases heq
      exact ⟨rfl, hentry⟩
    · rintro ⟨rfl, hentry⟩
      exact ⟨(slot.name, item), hentry, rfl⟩
  have hlookup : inSlots.lookup slot = if slot.set = set then byName[slot.name]? else none :=
    Option.ext fun item => by
      rw [lookup_eq_some_iff_mem hdistinct, hmem]
      split
      case isTrue hset => simp [hset]
      case isFalse hset => simp [hset]
  have hfold := getElem?_foldl_insert hdistinct items slot
  rw [List.foldl_map, hlookup] at hfold
  exact hfold

/-- The items of both weapon sets, put on one set after the other, are all the items. -/
theorem wear_worn (items : Std.ExtTreeMap Slot Item) :
    wear .second (.ofList (worn items .second)) (wear .first (.ofList (worn items .first)) ∅) =
      items :=
  Std.ExtTreeMap.ext_getElem? fun {slot} => by
    obtain ⟨set, name⟩ := slot
    rw [getElem?_wear, getElem?_wear, getElem?_ofList_worn, getElem?_ofList_worn]
    cases set <;> simp

end Build

/-- The items in all slots that are left, each with what is left of it. -/
def Omission.slots (o : Omission) (items : Std.ExtTreeMap Slot Item) :
    Std.ExtTreeMap Slot Item :=
  items.filterMap fun slot item =>
    let ofSet := o.within (.item slot.set.rank)
    ofSet.keep? slot.name (item.without (ofSet.within (.member slot.name)))

theorem Omission.slots_nothing (items : Std.ExtTreeMap Slot Item) :
    nothing.slots items = items :=
  Std.ExtTreeMap.ext_getElem? fun {slot} => by
    simp [slots, Item.without_nothing]

namespace Build

/-- What one weapon set has among all that is left is what is left of its items. -/
theorem worn_slots (o : Omission) (items : Std.ExtTreeMap Slot Item) (set : WeaponSet) :
    worn (o.slots items) set =
      (o.within (.item set.rank)).pairs id Item.without (worn items set) := by
  rw [worn, worn, Omission.slots, Std.ExtTreeMap.toList_filterMap]
  induction items.toList with
  | nil => rfl
  | cons entry entries ih =>
    obtain ⟨⟨other, name⟩, item⟩ := entry
    rw [Omission.pairs] at ih ⊢
    generalize hkept : (o.within (.item other.rank)).keep? name
      (item.without ((o.within (.item other.rank)).within (.member name))) = kept
    by_cases hset : other = set
    · subst hset
      cases kept <;> simp [hkept, ih]
    · cases kept <;> simp [hkept, hset, ih]

theorem addItemsOfSet?_without (items start : Std.ExtTreeMap Slot Item) (set : WeaponSet)
    (o : Omission) :
    addItemsOfSet? start set ((itemsOfSet items set : Document ν).without
        (o.within (.item set.rank))) =
      some (wear set (.ofList (worn (o.slots items) set)) start) := by
  have hrecord : (itemsOfSet items set : Document ν) =
      record ((worn items set).map fun entry => (id entry.1, entry.2.toDocument)) := by
    rw [itemsOfSet, worn, List.map_map]
    rfl
  rw [addItemsOfSet?_eq, hrecord, toMap?_without_record (fun _ _ => rfl)
    (fun entry _ o => entry.2.ofDocument?_without o), ← worn_slots, Option.map_some]

/-- The items of both weapon sets are read as those that are left. -/
theorem itemsOfDocument?_without (items : Std.ExtTreeMap Slot Item) (o : Omission) :
    itemsOfDocument? ((list [itemsOfSet items .first, itemsOfSet items .second] :
      Document ν).without o) = some (o.slots items) := by
  change (addItemsOfSet? ∅ .first ((itemsOfSet items .first).without
      (o.within (.item WeaponSet.first.rank)))).bind (fun start =>
    addItemsOfSet? start .second ((itemsOfSet items .second).without
      (o.within (.item WeaponSet.second.rank)))) = _
  rw [addItemsOfSet?_without, Option.bind_some, addItemsOfSet?_without, wear_worn]

end Build

end Loadout
