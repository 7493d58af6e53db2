import Loadout.Damage.Basic

/-!
# Conversion matrices

A matrix says which fraction of each damage type goes to each other. Entries for a
pair that cannot convert are dropped, entries for the same pair add up. A type may
not give away more than all of its damage: normalizing scales a row whose total
exceeds one down to one and leaves the others alone.

## Main definitions

* `ConversionMatrix`: the fractions, by source and target
* `ConversionMatrix.add?`, `ConversionMatrix.ofEntries`
* `ConversionMatrix.targets`: the targets of a type with a positive fraction
* `ConversionMatrix.normalize`

## Main results

* `ConversionMatrix.get_add`: adding an entry changes one fraction
-/

namespace Loadout

/-- Which fraction of each damage type goes to each other. -/
structure ConversionMatrix (ν : Type) where
  rows : ByType (ByType ν)
  deriving BEq

namespace ConversionMatrix

variable {ν : Type}

/-- The fraction that goes from one type to another. -/
def get (m : ConversionMatrix ν) (source target : DamageType) : ν :=
  (m.rows.get source).get target

variable [Scalar ν]

/-- No conversion. -/
def empty : ConversionMatrix ν :=
  ⟨.replicate (.replicate Scalar.zero)⟩

/-- Adds to the fraction of a pair, if the pair can convert. -/
def add? (m : ConversionMatrix ν) (source target : DamageType) (value : ν) :
    Option (ConversionMatrix ν) :=
  if source.converts target then
    some ⟨m.rows.modify source fun row => row.modify target (· + value)⟩
  else
    none

/-- Adds to the fraction of a pair that can convert, and does nothing for any other pair. -/
def add (m : ConversionMatrix ν) (source target : DamageType) (value : ν) : ConversionMatrix ν :=
  (m.add? source target value).getD m

/-- The matrix of a list of entries. -/
def ofEntries (entries : List (DamageType × DamageType × ν)) : ConversionMatrix ν :=
  entries.foldl (fun m entry => m.add entry.1 entry.2.1 entry.2.2) empty

/-- Everything that a type gives away. -/
def total (m : ConversionMatrix ν) (source : DamageType) : ν :=
  DamageVector.total (m.rows.get source)

/-- The targets of a type with a positive fraction, in order. -/
def targets (m : ConversionMatrix ν) (source : DamageType) : List (DamageType × ν) :=
  (DamageType.all.map fun target => (target, m.get source target)).filter fun entry =>
    Scalar.zero < entry.2

/-- Whether every fraction is zero. -/
def isEmpty (m : ConversionMatrix ν) : Bool :=
  m.rows.toList.all fun row => row.toList.all fun value => value == Scalar.zero

/-- A row scaled down to a total of one, if its total exceeds one. -/
def normalizeRow (row : ByType ν) : ByType ν :=
  let total := DamageVector.total row
  if Scalar.one < total then row.map (· / total) else row

/-- The matrix with each row that exceeds one scaled down to one. -/
def normalize (m : ConversionMatrix ν) : ConversionMatrix ν :=
  ⟨m.rows.map normalizeRow⟩

theorem get_empty (source target : DamageType) :
    (empty : ConversionMatrix ν).get source target = Scalar.zero := by
  cases source <;> cases target <;> rfl

theorem mem_targets {m : ConversionMatrix ν} {source target : DamageType} {x : ν} :
    (target, x) ∈ m.targets source ↔ m.get source target = x ∧ Scalar.zero < x := by
  rw [targets, List.mem_filter, decide_eq_true_iff, List.mem_map]
  refine and_congr_left fun _ => ⟨?_, ?_⟩
  · rintro ⟨t, -, h⟩
    obtain ⟨rfl, rfl⟩ := Prod.mk.inj h
    rfl
  · rintro rfl
    exact ⟨target, target.mem_all, rfl⟩

/-- Adding an entry changes the fraction of its pair, and only if the pair can convert. -/
theorem get_add (m : ConversionMatrix ν) (a b c d : DamageType) (x : ν) :
    (m.add a b x).get c d =
      if a.converts b ∧ a = c ∧ b = d then m.get c d + x else m.get c d := by
  by_cases h : a.converts b
  · by_cases hc : a = c
    · subst hc
      by_cases hd : b = d
      · subst hd
        simp [add, add?, get, h, ByType.modify, ByType.get_set]
      · simp [add, add?, get, h, ByType.modify, ByType.get_set, hd]
    · simp [add, add?, get, h, ByType.modify, ByType.get_set, hc]
  · simp [add, add?, h]

end ConversionMatrix

end Loadout
