import Loadout.Build

/-!
# What changed between two builds

An environment is rebuilt from a record of what changed: one mark for each part that
is built as a whole and a set of changed members for jewels and items. A set of
members may be empty, which is as good as no change.

## Main definitions

* `ChangeSet`: nothing, everything or certain members
* `Changes`: the changed parts of a build
* `Changes.between`: what differs between two builds
-/

namespace Loadout

/-- Which members of a part changed. -/
inductive ChangeSet (κ : Type) [Ord κ] [Std.TransOrd κ] where
  | nothing
  /-- Every member, known or not. -/
  | everything
  | members (keys : Std.ExtTreeSet κ)

namespace ChangeSet

variable {κ : Type} [Ord κ] [Std.TransOrd κ]

instance : Inhabited (ChangeSet κ) := ⟨nothing⟩

/-- The set of certain members; without members it is nothing. -/
def ofList (keys : List κ) : ChangeSet κ :=
  if keys.isEmpty then nothing else members (.ofList keys)

/-- Whether no member changed. -/
def isClean : ChangeSet κ → Bool
  | nothing => true
  | everything => false
  | members keys => keys.isEmpty

/-- Whether a member changed. -/
def contains : ChangeSet κ → κ → Bool
  | nothing, _ => false
  | everything, _ => true
  | members keys, key => keys.contains key

/-- The set with one more member. -/
def insert : ChangeSet κ → κ → ChangeSet κ
  | nothing, key => members (.ofList [key])
  | everything, _ => everything
  | members keys, key => members (keys.insert key)

/-- The set in which everything changed. -/
def insertAll (_ : ChangeSet κ) : ChangeSet κ :=
  everything

theorem isClean_ofList (keys : List κ) : (ofList keys).isClean = keys.isEmpty := by
  cases keys with
  | nil => rfl
  | cons key keys =>
    simp [ofList, isClean, Bool.eq_false_iff]

end ChangeSet

/-- The changed parts of a build. -/
structure Changes where
  passives : Bool := false
  jewels : ChangeSet Nat := .nothing
  items : ChangeSet Slot := .nothing
  skills : Bool := false
  settings : Bool := false
  /-- Whether the other weapon set became active, which leaves every part as it was. -/
  weaponSet : Bool := false

namespace Changes

/-- Nothing changed. -/
def nothing : Changes :=
  {}

instance : Inhabited Changes := ⟨nothing⟩

/-- Everything changed. -/
def everything : Changes :=
  { passives := true
    jewels := .everything
    items := .everything
    skills := true
    settings := true
    weaponSet := true }

/-- Whether nothing changed. -/
def isClean (c : Changes) : Bool :=
  !c.passives && c.jewels.isClean && c.items.isClean && !c.skills && !c.settings && !c.weaponSet

/-- The keys under which two maps hold different values, or only one of them holds a value. -/
def differingKeys {κ α : Type} [Ord κ] [Std.TransOrd κ] [DecidableEq α]
    (old new : Std.ExtTreeMap κ α) : List κ :=
  (old.keys ++ new.keys).filter fun key => old[key]? ≠ new[key]?

/-- What differs between two builds. Every field is compared but the level, which no part reads. -/
def between {ν : Type} [BEq ν] (old new : Build ν) : Changes :=
  { passives := old.className != new.className || old.ascendancy != new.ascendancy ||
      old.nodes != new.nodes || old.masteries != new.masteries
    jewels := .ofList (differingKeys old.jewels new.jewels)
    items := .ofList (differingKeys old.items new.items)
    skills := old.skills != new.skills
    settings := old.settings != new.settings
    weaponSet := old.activeSet != new.activeSet }

end Changes

end Loadout
