import Loadout.Condition
import Loadout.Origin

/-!
# Modifiers

A modifier changes one stat. Its kind says how it combines with the others on the
stat, its flags, keywords, condition and tag say when it applies, and its origin says
where it was read. Increases and "more" factors are fractions: ten percent is `0.1`.

## Main definitions

* `Kind`: how modifiers on one stat combine
* `Value`: a number, a switch or a text
* `Tag`: an item slot that the query must be about, or a label without effect
* `Modifier`: a single change of a stat
* `Modifier.effect?`: what it contributes in a situation
-/

namespace Loadout

/-- How a modifier combines with others on its stat. -/
inductive Kind where
  /-- Added to the base. -/
  | base
  /-- Summed with the other increases, applied as one factor. -/
  | increased
  /-- A factor of its own. -/
  | more
  /-- Takes the place of the computed value. -/
  | override
  /-- A switch. -/
  | flag
  /-- Collected. -/
  | list
  deriving DecidableEq, Hashable, Repr

namespace Kind

/-- The name under which a kind is written. -/
def name : Kind → String
  | base => "BASE"
  | increased => "INC"
  | more => "MORE"
  | override => "OVERRIDE"
  | flag => "FLAG"
  | list => "LIST"

/-- Every kind. -/
def all : List Kind :=
  [base, increased, more, override, flag, list]

/-- The kind of a name. -/
def ofName? (s : String) : Option Kind :=
  all.find? fun kind => kind.name == s

theorem ofName?_name (kind : Kind) : ofName? kind.name = some kind := by
  cases kind <;> decide

end Kind

/-- What a modifier carries. -/
inductive Value (ν : Type) where
  | number (x : ν)
  | flag (on : Bool)
  | entry (text : String)
  deriving BEq

/-- A value as a number: a switch counts as one or zero, a text as zero. -/
def Value.toNumber {ν : Type} [Scalar ν] : Value ν → ν
  | number x => x
  | flag true => Scalar.one
  | flag false => Scalar.zero
  | entry _ => Scalar.zero

/-- A note on a modifier. -/
inductive Tag where
  /-- Applies only to a query about this item slot. -/
  | slot (name : String)
  /-- Has no effect. -/
  | label (text : String)
  deriving DecidableEq, Repr

/-- A single change of a stat. -/
structure Modifier (ν : Type) where
  stat : String
  kind : Kind
  value : Value ν
  flags : DamageFlags := .empty
  keywords : KeywordFlags := .empty
  origin : Origin := .custom
  condition : Option (Condition ν) := none
  tag : Option Tag := none
  deriving BEq

namespace Modifier

variable {ν : Type}

/-- A modifier that carries a number. -/
def number (stat : String) (kind : Kind) (x : ν) (origin : Origin) : Modifier ν :=
  { stat, kind, value := .number x, origin }

/-- A switch that is on. -/
def switch (stat : String) (origin : Origin) : Modifier ν :=
  { stat, kind := .flag, value := .flag true, origin }

/-- A collected text. -/
def entry (stat text : String) (origin : Origin) : Modifier ν :=
  { stat, kind := .list, value := .entry text, origin }

/-- Whether a tag lets a modifier apply to a query about a slot. -/
def tagAllows (tag : Option Tag) (slot : Option String) : Bool :=
  match tag with
  | some (.slot name) => slot == some name
  | _ => true

variable [Scalar ν]

/-- What a modifier contributes in a situation, or nothing when it does not apply. -/
def effect? (m : Modifier ν) (ctx : Context ν) : Option ν :=
  if m.flags.appliesTo ctx.flags && m.keywords.appliesTo ctx.keywords && tagAllows m.tag ctx.slot
  then
    match m.condition with
    | some condition => (condition.factor? ctx).map (m.value.toNumber * ·)
    | none => some (m.value.toNumber * Scalar.one)
  else
    none

end Modifier

end Loadout
