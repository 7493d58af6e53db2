import Mathlib.Tactic.Linarith
import Mathlib.Tactic.Ring
import Loadout.Damage.Conversion
import Loadout.Proofs.Number.Rational

/-!
# The ledger of damage conversion

Every movement of damage is recorded. Over the rationals the record accounts for the result: what
a type holds in the end is what it held at first, plus the amounts of all movements into it, less
the amounts that it gave away by conversion. The loop changes the amounts that it reads, so the
account is an invariant that every type's turn keeps. Summed over the types, conversions cancel
and gains remain.

## Main definitions

* `ConversionResult.moved`: what the movements of a kind amount to together
* `ConversionResult.received`, `ConversionResult.converted`, `ConversionResult.gained`
* `ConversionResult.outflow`: the movements at one type's turn
* `ConversionResult.Balanced`: the record accounts for the damage

## Main results

* `ConversionResult.steps_convertFrom`, `ConversionResult.get_convertFrom`: one type's turn
* `ConversionResult.steps_gainFrom`, `ConversionResult.get_gainFrom`: the gains from one type
* `ConversionResult.balanced_applyConversions`: the invariant after all turns
* `applyConversions_ledger`: the account by type and in total
-/

namespace Loadout

namespace ConversionResult

/-! ### Amounts of movements -/

/-- The amounts of the movements that pass a test, together. -/
def moved (test : ConversionStep Rat → Bool) (steps : List (ConversionStep Rat)) : Rat :=
  ((steps.filter test).map (·.amount)).sum

/-- What has arrived at a type. -/
def received (r : ConversionResult Rat) (t : DamageType) : Rat :=
  moved (fun step => step.target == t) r.steps

/-- What a type has given away by conversion. -/
def converted (r : ConversionResult Rat) (t : DamageType) : Rat :=
  moved (fun step => step.kind == .convert && step.source == t) r.steps

/-- What has been gained as extra. -/
def gained (r : ConversionResult Rat) : Rat :=
  moved (fun step => step.kind == .gainAsExtra) r.steps

theorem moved_append (test : ConversionStep Rat → Bool) (steps steps' : List (ConversionStep Rat)) :
    moved test (steps ++ steps') = moved test steps + moved test steps' := by
  simp only [moved, List.filter_append, List.map_append, List.sum_append]

theorem moved_cons (test : ConversionStep Rat → Bool) (step : ConversionStep Rat)
    (steps : List (ConversionStep Rat)) :
    moved test (step :: steps) = (if test step then step.amount else 0) + moved test steps := by
  cases h : test step with
  | true => simp [moved, List.filter_cons_of_pos h]
  | false => simp [moved, h]

theorem moved_of_forall {test : ConversionStep Rat → Bool} {steps : List (ConversionStep Rat)}
    (h : ∀ step ∈ steps, test step = true) : moved test steps = (steps.map (·.amount)).sum := by
  rw [moved, List.filter_eq_self.mpr h]

theorem moved_of_forall_not {test : ConversionStep Rat → Bool} {steps : List (ConversionStep Rat)}
    (h : ∀ step ∈ steps, ¬ test step = true) : moved test steps = 0 := by
  rw [moved, List.filter_eq_nil_iff.mpr h]
  rfl

/-- Sorted by a damage type that each movement has, the movements that pass are counted once. -/
theorem sum_moved_by (test : ConversionStep Rat → Bool) (type : ConversionStep Rat → DamageType)
    (steps : List (ConversionStep Rat)) :
    (DamageType.all.map fun t => moved (fun step => test step && type step == t) steps).sum =
      moved test steps := by
  induction steps with
  | nil => simp [moved]
  | cons step steps ih =>
    have hone : (DamageType.all.map fun t =>
        if (test step && type step == t) = true then step.amount else 0).sum =
          if test step = true then step.amount else 0 := by
      cases test step <;> cases type step <;> simp [DamageType.all]
    simp only [moved_cons, List.sum_map_add, ih, hone]

/-! ### One turn -/

/-- The movements out of a type that holds an amount; none when nothing is held. -/
def outflow (kind : StepKind) (m : ConversionMatrix Rat) (source : DamageType) (amount : Rat) :
    List (ConversionStep Rat) :=
  if amount ≤ 0 then [] else stepsOut kind source amount (m.targets source)

theorem of_mem_outflow {kind : StepKind} {m : ConversionMatrix Rat} {source : DamageType}
    {amount : Rat} {step : ConversionStep Rat} (h : step ∈ outflow kind m source amount) :
    step.kind = kind ∧ step.source = source := by
  unfold outflow at h
  split at h
  · cases h
  · obtain ⟨entry, -, rfl⟩ := List.mem_map.mp h
    exact ⟨rfl, rfl⟩

theorem steps_foldl_receive (r : ConversionResult Rat) (steps : List (ConversionStep Rat)) :
    (steps.foldl receive r).steps = r.steps ++ steps := by
  induction steps generalizing r with
  | nil => exact (List.append_nil _).symm
  | cons step steps ih =>
    rw [List.foldl_cons, ih, receive, List.append_assoc, List.singleton_append]

theorem get_foldl_receive (r : ConversionResult Rat) (steps : List (ConversionStep Rat))
    (t : DamageType) : (steps.foldl receive r).damage.get t =
      r.damage.get t + moved (fun step => step.target == t) steps := by
  induction steps generalizing r with
  | nil => exact (add_zero _).symm
  | cons step steps ih =>
    have hone : (r.receive step).damage.get t =
        r.damage.get t + if (step.target == t) = true then step.amount else 0 := by
      rw [receive, ByType.modify, ByType.get_set]
      by_cases h : step.target = t
      · rw [if_pos h, if_pos (beq_iff_eq.mpr h), h]
      · rw [if_neg h, if_neg (mt beq_iff_eq.mp h), add_zero]
    rw [List.foldl_cons, ih, hone, moved_cons, add_assoc]

theorem convertFrom_of_le {m : ConversionMatrix Rat} {r : ConversionResult Rat}
    {source : DamageType} (h : r.damage.get source ≤ 0) : convertFrom m r source = r :=
  if_pos h

/-- A type that holds something hands over its movements and loses what they amount to. -/
theorem convertFrom_of_not_le {m : ConversionMatrix Rat} {r : ConversionResult Rat}
    {source : DamageType} (h : ¬ r.damage.get source ≤ 0) : convertFrom m r source =
      let out := outflow .convert m source (r.damage.get source)
      ⟨(out.foldl receive r).damage.modify source (· - (out.map (·.amount)).sum),
        (out.foldl receive r).steps⟩ := by
  rw [outflow, if_neg h]
  exact (if_neg h).trans (by rw [Scalar.sum_rat])

/-- A type's turn records the movements out of it. -/
theorem steps_convertFrom (m : ConversionMatrix Rat) (r : ConversionResult Rat)
    (source : DamageType) : (convertFrom m r source).steps =
      r.steps ++ outflow .convert m source (r.damage.get source) := by
  by_cases h : r.damage.get source ≤ 0
  · rw [convertFrom_of_le h, outflow, if_pos h, List.append_nil]
  · rw [convertFrom_of_not_le h, ← steps_foldl_receive]

/-- A type's turn adds the movements to their targets and takes all of them from the type. -/
theorem get_convertFrom (m : ConversionMatrix Rat) (r : ConversionResult Rat)
    (source t : DamageType) : (convertFrom m r source).damage.get t =
      r.damage.get t + moved (fun step => step.target == t)
          (outflow .convert m source (r.damage.get source)) -
        if source = t then
          ((outflow .convert m source (r.damage.get source)).map (·.amount)).sum
        else 0 := by
  by_cases h : r.damage.get source ≤ 0
  · rw [convertFrom_of_le h, outflow, if_pos h]
    simp [moved]
  · rw [convertFrom_of_not_le h, ← get_foldl_receive]
    simp only [ByType.modify, ByType.get_set]
    by_cases hsource : source = t
    · rw [if_pos hsource, if_pos hsource, hsource]
    · rw [if_neg hsource, if_neg hsource, sub_zero]

theorem gainFrom_eq (m : ConversionMatrix Rat) (base : DamageVector Rat)
    (r : ConversionResult Rat) (source : DamageType) : gainFrom m base r source =
      (outflow .gainAsExtra m source (base.get source)).foldl receive r := by
  by_cases h : base.get source ≤ 0
  · rw [outflow, if_pos h]
    exact if_pos h
  · rw [outflow, if_neg h]
    exact if_neg h

/-- The gains from a type are recorded. -/
theorem steps_gainFrom (m : ConversionMatrix Rat) (base : DamageVector Rat)
    (r : ConversionResult Rat) (source : DamageType) : (gainFrom m base r source).steps =
      r.steps ++ outflow .gainAsExtra m source (base.get source) := by
  rw [gainFrom_eq, steps_foldl_receive]

/-- The gains from a type are added to their targets. -/
theorem get_gainFrom (m : ConversionMatrix Rat) (base : DamageVector Rat)
    (r : ConversionResult Rat) (source t : DamageType) :
    (gainFrom m base r source).damage.get t = r.damage.get t +
      moved (fun step => step.target == t) (outflow .gainAsExtra m source (base.get source)) := by
  rw [gainFrom_eq, get_foldl_receive]

/-- What a type has given away grows at its own turn alone. -/
theorem converted_convertFrom (m : ConversionMatrix Rat) (r : ConversionResult Rat)
    (source t : DamageType) : (convertFrom m r source).converted t = r.converted t +
      if source = t then
        ((outflow .convert m source (r.damage.get source)).map (·.amount)).sum
      else 0 := by
  rw [converted, converted, steps_convertFrom, moved_append]
  congr 1
  by_cases h : source = t
  · rw [if_pos h]
    refine moved_of_forall fun step hstep => ?_
    obtain ⟨hkind, hsource⟩ := of_mem_outflow hstep
    simp [hkind, hsource, h]
  · rw [if_neg h]
    refine moved_of_forall_not fun step hstep => ?_
    simp [(of_mem_outflow hstep).2, h]

theorem converted_gainFrom (m : ConversionMatrix Rat) (base : DamageVector Rat)
    (r : ConversionResult Rat) (source t : DamageType) :
    (gainFrom m base r source).converted t = r.converted t := by
  rw [converted, converted, steps_gainFrom, moved_append]
  have hnone : moved (fun step => step.kind == .convert && step.source == t)
      (outflow .gainAsExtra m source (base.get source)) = 0 := by
    refine moved_of_forall_not fun step hstep => ?_
    simp [(of_mem_outflow hstep).1]
  rw [hnone, add_zero]

/-! ### The invariant -/

/-- The record accounts for what each type holds. -/
def Balanced (base : DamageVector Rat) (r : ConversionResult Rat) : Prop :=
  ∀ t, r.damage.get t = base.get t + r.received t - r.converted t

theorem balanced_ofBase (base : DamageVector Rat) : Balanced base (ofBase base) := by
  intro t
  simp [ofBase, received, converted, moved]

/-- A type's turn keeps the account. -/
theorem Balanced.convertFrom {base : DamageVector Rat} {r : ConversionResult Rat}
    (h : Balanced base r) (m : ConversionMatrix Rat) (source : DamageType) :
    Balanced base (convertFrom m r source) := by
  intro t
  rw [get_convertFrom, converted_convertFrom, received, steps_convertFrom, moved_append, h t,
    received]
  ring

theorem Balanced.gainFrom {base : DamageVector Rat} {r : ConversionResult Rat}
    (h : Balanced base r) (m : ConversionMatrix Rat) (source : DamageType) :
    Balanced base (gainFrom m base r source) := by
  intro t
  rw [get_gainFrom, converted_gainFrom, received, steps_gainFrom, moved_append, h t, received]
  ring

/-- After all turns and all gains the record accounts for the damage. -/
theorem balanced_applyConversions (base : DamageVector Rat)
    (conversions gains : ConversionMatrix Rat) :
    Balanced base (applyConversions base conversions gains) := by
  have hconverted : Balanced base
      (DamageType.all.foldl (ConversionResult.convertFrom conversions.normalize) (ofBase base)) :=
    List.foldlRecOn _ _ (balanced_ofBase base) fun _ h source _ => h.convertFrom _ source
  exact List.foldlRecOn _ _ hconverted fun _ h source _ => h.gainFrom gains source

end ConversionResult

/-! ### Totals -/

open ConversionResult

theorem DamageVector.total_rat (v : DamageVector Rat) :
    v.total = (DamageType.all.map v.get).sum :=
  Scalar.sum_rat _

theorem ConversionResult.sum_received (r : ConversionResult Rat) :
    (DamageType.all.map r.received).sum = (r.steps.map (·.amount)).sum := by
  have h := sum_moved_by (fun _ => true) (·.target) r.steps
  rwa [moved_of_forall fun _ _ => rfl] at h

theorem ConversionResult.sum_converted_add_gained (r : ConversionResult Rat) :
    (DamageType.all.map r.converted).sum + r.gained = (r.steps.map (·.amount)).sum := by
  have h : (DamageType.all.map r.converted).sum =
      moved (fun step => step.kind == .convert) r.steps := sum_moved_by _ (·.source) r.steps
  rw [h, gained]
  induction r.steps with
  | nil => simp [moved]
  | cons step steps ih =>
    rw [moved_cons, moved_cons, List.map_cons, List.sum_cons, ← ih]
    cases step.kind with
    | convert => simp [add_assoc]
    | gainAsExtra => simp [add_left_comm]

/-- For any amounts and any two matrices: a type ends with what it had, plus all that moved into it,
less all that it gave away by conversion. So the total changes by the gains alone, and conversion
neither creates nor destroys damage. -/
theorem applyConversions_ledger (base : DamageVector Rat)
    (conversions gains : ConversionMatrix Rat) :
    (∀ t, (applyConversions base conversions gains).damage.get t =
      base.get t + (applyConversions base conversions gains).received t -
        (applyConversions base conversions gains).converted t) ∧
      (applyConversions base conversions gains).damage.total =
        base.total + (applyConversions base conversions gains).gained := by
  generalize hr : applyConversions base conversions gains = r
  have hbalanced : Balanced base r := hr ▸ balanced_applyConversions base conversions gains
  refine ⟨hbalanced, ?_⟩
  have hsum : (DamageType.all.map r.damage.get).sum + (DamageType.all.map r.converted).sum =
      (DamageType.all.map base.get).sum + (DamageType.all.map r.received).sum := by
    rw [← List.sum_map_add, ← List.sum_map_add]
    simp only [hbalanced _, sub_add_cancel]
  have hcancel := r.sum_converted_add_gained
  rw [← r.sum_received] at hcancel
  rw [DamageVector.total_rat, DamageVector.total_rat]
  linarith

end Loadout
