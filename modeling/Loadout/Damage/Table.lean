import Loadout.Damage.Conversion
import Loadout.Store

/-!
# Conversion tables of a store

Conversions and gains are stats like any others, one for each pair of types that can
convert. A table collects their bases.

## Main definitions

* `ConversionTable.ofStore`: the tables that a store holds in a situation
* `ConversionTable.apply`: damage under both tables
-/

namespace Loadout

/-- The stat of a conversion. -/
def convertStat (source target : DamageType) : String :=
  source.name ++ "DamageConvertTo" ++ target.name

/-- The stat of a gain as extra damage. -/
def gainStat (source target : DamageType) : String :=
  source.name ++ "DamageGainAs" ++ target.name

/-- Conversions and gains. -/
structure ConversionTable (ν : Type) where
  conversions : ConversionMatrix ν
  gains : ConversionMatrix ν
  deriving BEq

namespace ConversionTable

/-- The pairs of types that can convert, by source and then by target. -/
def pairs : List (DamageType × DamageType) :=
  DamageType.all.flatMap fun source =>
    (DamageType.all.filter source.converts).map fun target => (source, target)

variable {ν : Type} [Scalar ν]

/-- The tables that a store holds in a situation. -/
def ofStore (store : Store ν) (ctx : Context ν) : ConversionTable ν :=
  { conversions := .ofEntries (pairs.map fun pair =>
      (pair.1, pair.2, store.sum .base (convertStat pair.1 pair.2) ctx))
    gains := .ofEntries (pairs.map fun pair =>
      (pair.1, pair.2, store.sum .base (gainStat pair.1 pair.2) ctx)) }

/-- Damage under both tables. -/
def apply (t : ConversionTable ν) (base : DamageVector ν) : ConversionResult ν :=
  applyConversions base t.conversions t.gains

end ConversionTable

end Loadout
