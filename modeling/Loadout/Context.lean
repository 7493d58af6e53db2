import Std.Data.ExtTreeMap
import Loadout.FlagSet

/-!
# The situation that a stat is asked about

A query carries the flags of the damage instance and the keywords of the skill, the
named conditions that hold, the values of stats that are already known, and the item
slot in question. A condition that nothing was said about does not hold.

## Main definitions

* `Context`: the situation
* `Context.holds`: whether a named condition holds
* `Context.setCondition`, `Context.setStat`: one thing said anew
* `Context.activeConditions`: the conditions that hold, in order
-/

namespace Loadout

/-- A situation in which a stat is asked for. -/
structure Context (ν : Type) where
  flags : DamageFlags := .empty
  keywords : KeywordFlags := .empty
  conditions : Std.ExtTreeMap String Bool := ∅
  stats : Std.ExtTreeMap String ν := ∅
  slot : Option String := none

namespace Context

variable {ν : Type}

/-- Nothing is known. -/
def empty : Context ν :=
  {}

instance : Inhabited (Context ν) := ⟨empty⟩

/-- Whether a named condition holds. -/
def holds (c : Context ν) (name : String) : Bool :=
  c.conditions[name]?.getD false

/-- The known value of a stat. -/
def stat? (c : Context ν) (name : String) : Option ν :=
  c.stats[name]?

/-- The situation with one condition said anew. -/
def setCondition (c : Context ν) (name : String) (active : Bool) : Context ν :=
  { c with conditions := c.conditions.insert name active }

/-- The situation with one stat's value said anew. -/
def setStat (c : Context ν) (name : String) (value : ν) : Context ν :=
  { c with stats := c.stats.insert name value }

/-- The names of the conditions that hold, in order. -/
def activeConditions (c : Context ν) : List String :=
  (c.conditions.toList.filter (·.2)).map (·.1)

theorem holds_setCondition (c : Context ν) (name other : String) (active : Bool) :
    (c.setCondition name active).holds other = if name = other then active else c.holds other := by
  simp only [holds, setCondition, Std.ExtTreeMap.getElem?_insert, Std.compare_eq_iff_eq]
  split <;> simp

theorem stat?_setStat (c : Context ν) (name other : String) (value : ν) :
    (c.setStat name value).stat? other = if name = other then some value else c.stat? other := by
  simp only [stat?, setStat, Std.ExtTreeMap.getElem?_insert, Std.compare_eq_iff_eq]

end Context

end Loadout
