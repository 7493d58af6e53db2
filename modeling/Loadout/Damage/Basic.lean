import Loadout.Number.Scalar

/-!
# Damage types and amounts by type

There are five damage types in a fixed order, and damage converts only to a later type.
Amounts are kept by type, totals run through the types in order.

## Main definitions

* `DamageType`, `DamageType.converts`: the types and the pairs that can convert
* `ByType`: something for each type, with `get` and `set`
* `DamageVector`: an amount for each type

## Main results

* `ByType.get_set`: what was put under a type is found there and nowhere else
* `ByType.ext_get`: two families agree when they agree at each type
-/

namespace Loadout

/-- The damage types, in the order of conversion. -/
inductive DamageType where
  | physical
  | lightning
  | cold
  | fire
  | chaos
  deriving DecidableEq, Repr, Inhabited

namespace DamageType

/-- Every type, in order. -/
def all : List DamageType :=
  [physical, lightning, cold, fire, chaos]

/-- The place of a type in the order. -/
def rank : DamageType → Nat
  | physical => 0
  | lightning => 1
  | cold => 2
  | fire => 3
  | chaos => 4

/-- The name of a type. -/
def name : DamageType → String
  | physical => "Physical"
  | lightning => "Lightning"
  | cold => "Cold"
  | fire => "Fire"
  | chaos => "Chaos"

/-- Whether damage of one type can convert to another: only to a later one. -/
def converts (source target : DamageType) : Bool :=
  source.rank < target.rank

/-- A character in lower case, for ASCII alone. -/
def lowerAscii (c : Char) : Char :=
  if 65 ≤ c.toNat && c.toNat ≤ 90 then Char.ofNat (c.toNat + 32) else c

/-- The type of a name, ASCII letters of either case being the same. -/
def ofName? (s : String) : Option DamageType :=
  all.find? fun t => t.name.toList.map lowerAscii == s.toList.map lowerAscii

theorem mem_all (t : DamageType) : t ∈ all := by
  cases t <;> decide

end DamageType

/-- Something for each damage type. -/
structure ByType (α : Type) where
  physical : α
  lightning : α
  cold : α
  fire : α
  chaos : α
  deriving BEq, DecidableEq, Inhabited

namespace ByType

variable {α : Type}

/-- The same for each type. -/
def replicate (a : α) : ByType α :=
  ⟨a, a, a, a, a⟩

/-- What stands under a type. -/
def get (v : ByType α) : DamageType → α
  | .physical => v.physical
  | .lightning => v.lightning
  | .cold => v.cold
  | .fire => v.fire
  | .chaos => v.chaos

/-- The family with something else under one type. -/
def set (v : ByType α) (t : DamageType) (a : α) : ByType α :=
  match t with
  | .physical => { v with physical := a }
  | .lightning => { v with lightning := a }
  | .cold => { v with cold := a }
  | .fire => { v with fire := a }
  | .chaos => { v with chaos := a }

/-- The family with a function applied under one type. -/
def modify (v : ByType α) (t : DamageType) (f : α → α) : ByType α :=
  v.set t (f (v.get t))

/-- A function applied under each type. -/
def map {β : Type} (f : α → β) (v : ByType α) : ByType β :=
  ⟨f v.physical, f v.lightning, f v.cold, f v.fire, f v.chaos⟩

/-- What stands under each type, in order. -/
def toList (v : ByType α) : List α :=
  DamageType.all.map v.get

/-- What was put under a type is found there, and the rest is as before. -/
theorem get_set (v : ByType α) (t u : DamageType) (a : α) :
    (v.set t a).get u = if t = u then a else v.get u := by
  cases t <;> cases u <;> rfl

/-- Families that agree at each type are equal. -/
theorem ext_get {v w : ByType α} (h : ∀ t, v.get t = w.get t) : v = w := by
  cases v
  cases w
  simp only [mk.injEq]
  exact ⟨h .physical, h .lightning, h .cold, h .fire, h .chaos⟩

theorem get_map {β : Type} (f : α → β) (v : ByType α) (t : DamageType) :
    (v.map f).get t = f (v.get t) := by
  cases t <;> rfl

end ByType

/-- An amount of damage for each type. -/
abbrev DamageVector (ν : Type) := ByType ν

namespace DamageVector

variable {ν : Type} [Scalar ν]

/-- No damage. -/
def zero : DamageVector ν :=
  .replicate Scalar.zero

/-- All damage together. -/
def total (v : DamageVector ν) : ν :=
  Scalar.sum v.toList

end DamageVector

end Loadout
