import Loadout.Damage.Matrix

/-!
# Converting damage

Types give damage away in order, so damage that arrived from an earlier type moves on
with the rest. Gaining damage as extra takes nothing from its source and is computed
from the amounts before any conversion. Every movement is recorded.

## Main definitions

* `ConversionStep`: one movement of damage
* `convertFrom`: what one type gives away
* `gainFrom`: what is gained from one type
* `applyConversions`: all conversions and then all gains
-/

namespace Loadout

/-- Whether a movement takes from its source. -/
inductive StepKind where
  | convert
  | gainAsExtra
  deriving DecidableEq, Repr

namespace StepKind

/-- The name under which a movement's kind is written. -/
def name : StepKind → String
  | convert => "Convert"
  | gainAsExtra => "GainAsExtra"

end StepKind

/-- One movement of damage between types. -/
structure ConversionStep (ν : Type) where
  source : DamageType
  target : DamageType
  amount : ν
  kind : StepKind
  deriving BEq

/-- Damage after conversion, with the movements that led to it in order. -/
structure ConversionResult (ν : Type) where
  damage : DamageVector ν
  steps : List (ConversionStep ν)
  deriving BEq

namespace ConversionResult

variable {ν : Type} [Scalar ν]

/-- Damage that has not moved. -/
def ofBase (base : DamageVector ν) : ConversionResult ν :=
  ⟨base, []⟩

/-- Records a movement and adds it to its target. -/
def receive (r : ConversionResult ν) (step : ConversionStep ν) : ConversionResult ν :=
  ⟨r.damage.modify step.target (· + step.amount), r.steps ++ [step]⟩

/-- The movements out of a type that holds `amount`, for each target with its fraction. -/
def stepsOut (kind : StepKind) (source : DamageType) (amount : ν)
    (targets : List (DamageType × ν)) : List (ConversionStep ν) :=
  targets.map fun entry => ⟨source, entry.1, amount * entry.2, kind⟩

/-- One type gives away its share to each target. -/
def convertFrom (m : ConversionMatrix ν) (r : ConversionResult ν) (source : DamageType) :
    ConversionResult ν :=
  let remaining := r.damage.get source
  if remaining ≤ Scalar.zero then
    r
  else
    let steps := stepsOut .convert source remaining (m.targets source)
    let converted := Scalar.sum (steps.map (·.amount))
    let r := steps.foldl receive r
    { r with damage := r.damage.modify source (· - converted) }

/-- Each target gains its share of what one type held before conversion. -/
def gainFrom (m : ConversionMatrix ν) (base : DamageVector ν) (r : ConversionResult ν)
    (source : DamageType) : ConversionResult ν :=
  let original := base.get source
  if original ≤ Scalar.zero then
    r
  else
    (stepsOut .gainAsExtra source original (m.targets source)).foldl receive r

end ConversionResult

open ConversionResult in
/-- Damage after conversion by the first matrix, capped at all of each type, and gains by the
second. -/
def applyConversions {ν : Type} [Scalar ν] (base : DamageVector ν)
    (conversions gains : ConversionMatrix ν) : ConversionResult ν :=
  let capped := conversions.normalize
  let converted := DamageType.all.foldl (convertFrom capped) (ofBase base)
  DamageType.all.foldl (gainFrom gains base) converted

end Loadout
