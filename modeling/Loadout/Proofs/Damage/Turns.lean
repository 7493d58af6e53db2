import Mathlib.Algebra.Order.Group.MinMax
import Mathlib.Order.RelClasses
import Loadout.Proofs.Damage.Cap

/-!
# The turns of conversion

Types take their turns in order, and at its turn a type hands out fractions of what it holds. The
loop changes the amounts in place, yet before its turn a type only receives, and only from the types
before it. So what the types hold at their turns is a recursion along the order: the base and the
shares of the earlier types. All movements, and the damage in the end, can be written down from
what is held.

## Main definitions

* `DamageType.earlier`: the types whose turns come before
* `ConversionResult.shares`: what arrives at a type, given what the others hold
* `ConversionResult.turns`: the types in a row of turns, each with what it holds

## Main results

* `ConversionResult.held_eq`: what a type holds at its turn, from what the earlier ones hold
* `ConversionResult.steps_applyConversions`: all movements in order
* `ConversionResult.get_applyConversions`: the damage of a type in the end
-/

namespace Loadout

namespace DamageType

/-- The types whose turns come before a type's own. -/
def earlier (t : DamageType) : List DamageType :=
  all.takeWhile (· != t)

theorem mem_earlier_iff {s t : DamageType} : s ∈ t.earlier ↔ s.converts t = true := by
  cases s <;> cases t <;> decide

/-- What holds of a type as soon as it holds of all earlier ones holds of every type. -/
theorem earlier_induction {P : DamageType → Prop} (h : ∀ t, (∀ s ∈ t.earlier, P s) → P t)
    (t : DamageType) : P t := by
  induction t using (measure rank).wf.induction with
  | _ t ih =>
    refine h t fun s hs => ih s ?_
    have hrank : s.rank < t.rank := of_decide_eq_true (mem_earlier_iff.mp hs)
    exact hrank

end DamageType

namespace ConversionResult

/-! ### Shares -/

theorem moved_flatMap {α : Type} (test : ConversionStep Rat → Bool) (xs : List α)
    (f : α → List (ConversionStep Rat)) :
    moved test (xs.flatMap f) = (xs.map fun x => moved test (f x)).sum := by
  induction xs with
  | nil => rfl
  | cons x xs ih => rw [List.flatMap_cons, moved_append, ih, List.map_cons, List.sum_cons]

/-- Of the movements out of a type one goes to each target that has a positive fraction. -/
theorem moved_stepsOut (kind : StepKind) (m : ConversionMatrix Rat) (source : DamageType)
    (amount : Rat) (t : DamageType) :
    moved (fun step => step.target == t) (stepsOut kind source amount (m.targets source)) =
      amount * max 0 (m.get source t) := by
  have hone : (DamageType.all.map fun target => (target, m.get source target)).filter
      (fun entry => entry.1 == t) = [(t, m.get source t)] := by
    cases t <;> rfl
  have htarget : (m.targets source).filter (fun entry => entry.1 == t) =
      [(t, m.get source t)].filter fun entry => (0 : Rat) < entry.2 := by
    rw [← hone, ConversionMatrix.targets, List.filter_comm]
    rfl
  rw [moved, stepsOut, List.filter_map, List.map_map]
  simp only [Function.comp_def, htarget]
  by_cases h : 0 < m.get source t
  · rw [max_eq_right h.le]
    simp [h]
  · rw [max_eq_left (not_lt.mp h)]
    simp [h]

/-- What moves from one type to another: a share of what is held, unless there is nothing to hold or
the fraction is not positive. -/
theorem moved_outflow (kind : StepKind) (m : ConversionMatrix Rat) (source : DamageType)
    (amount : Rat) (t : DamageType) :
    moved (fun step => step.target == t) (outflow kind m source amount) =
      max 0 amount * max 0 (m.get source t) := by
  unfold outflow
  split
  · next h => rw [max_eq_left h, zero_mul, moved, List.filter_nil, List.map_nil, List.sum_nil]
  · next h => rw [moved_stepsOut, max_eq_right (not_le.mp h).le]

theorem exists_mem_outflow_iff {kind : StepKind} {m : ConversionMatrix Rat}
    {source target : DamageType} {amount : Rat} :
    (∃ step ∈ outflow kind m source amount, step.target = target) ↔
      0 < amount ∧ 0 < m.get source target := by
  unfold outflow
  split
  · next h =>
    constructor
    · rintro ⟨step, hstep, -⟩
      cases hstep
    · exact fun hpos => absurd hpos.1 (not_lt.mpr h)
  · next h =>
    constructor
    · rintro ⟨step, hstep, rfl⟩
      obtain ⟨⟨target, x⟩, hentry, rfl⟩ := List.mem_map.mp hstep
      obtain ⟨rfl, hpos⟩ := ConversionMatrix.mem_targets.mp hentry
      exact ⟨not_le.mp h, hpos⟩
    · rintro ⟨-, hpos⟩
      exact ⟨_, List.mem_map_of_mem (ConversionMatrix.mem_targets.mpr ⟨rfl, hpos⟩), rfl⟩

/-- What arrives at a type from the types of a list, given what each of them holds. -/
def shares (m : ConversionMatrix Rat) (types : List DamageType) (amount : DamageType → Rat)
    (t : DamageType) : Rat :=
  (types.map fun s => max 0 (amount s) * max 0 (m.get s t)).sum

/-! ### A row of turns -/

/-- The types whose turns come, each with what it holds then. -/
def turns (m : ConversionMatrix Rat) :
    ConversionResult Rat → List DamageType → List (DamageType × Rat)
  | _, [] => []
  | r, t :: types => (t, r.damage.get t) :: turns m (convertFrom m r t) types

theorem steps_foldl_convertFrom (m : ConversionMatrix Rat) (types : List DamageType)
    (r : ConversionResult Rat) : (types.foldl (convertFrom m) r).steps =
      r.steps ++ (turns m r types).flatMap fun turn => outflow .convert m turn.1 turn.2 := by
  induction types generalizing r with
  | nil => exact (List.append_nil _).symm
  | cons t types ih =>
    rw [List.foldl_cons, ih, steps_convertFrom, List.append_assoc, turns, List.flatMap_cons]

theorem get_foldl_convertFrom {t : DamageType} {types : List DamageType} (h : t ∉ types)
    (m : ConversionMatrix Rat) (r : ConversionResult Rat) :
    (types.foldl (convertFrom m) r).damage.get t = r.damage.get t +
      ((turns m r types).map fun turn => max 0 turn.2 * max 0 (m.get turn.1 t)).sum := by
  induction types generalizing r with
  | nil => exact (add_zero _).symm
  | cons s types ih =>
    obtain ⟨hs, htypes⟩ := not_or.mp (mt List.mem_cons.mpr h)
    rw [List.foldl_cons, ih htypes, get_convertFrom, if_neg (Ne.symm hs), sub_zero, moved_outflow,
      turns, List.map_cons, List.sum_cons, add_assoc]

theorem steps_foldl_gainFrom (m : ConversionMatrix Rat) (base : DamageVector Rat)
    (types : List DamageType) (r : ConversionResult Rat) :
    (types.foldl (gainFrom m base) r).steps =
      r.steps ++ types.flatMap fun t => outflow .gainAsExtra m t (base.get t) := by
  induction types generalizing r with
  | nil => exact (List.append_nil _).symm
  | cons t types ih =>
    rw [List.foldl_cons, ih, steps_gainFrom, List.append_assoc, List.flatMap_cons]

/-! ### All turns -/

variable (base : DamageVector Rat) (conversions gains : ConversionMatrix Rat) (t : DamageType)

theorem turns_earlier : turns conversions.normalize (ofBase base) t.earlier =
    t.earlier.map fun s => (s, held base conversions s) := by
  cases t <;> rfl

theorem turns_all : turns conversions.normalize (ofBase base) DamageType.all =
    DamageType.all.map fun s => (s, held base conversions s) := by
  simp only [turns, DamageType.all, List.map_cons, List.map_nil]
  rfl

/-- At its turn a type holds its base and the shares of the earlier types. -/
theorem held_eq : held base conversions t =
    base.get t + shares conversions.normalize t.earlier (held base conversions) t := by
  have h := get_foldl_convertFrom (not_mem_before t) conversions.normalize (ofBase base)
  rw [← DamageType.earlier, turns_earlier, List.map_map] at h
  exact h

/-- The movements are those at the turns of conversion and then the gains from the base. -/
theorem steps_applyConversions : (applyConversions base conversions gains).steps =
    (DamageType.all.flatMap fun s =>
        outflow .convert conversions.normalize s (held base conversions s)) ++
      DamageType.all.flatMap fun s => outflow .gainAsExtra gains s (base.get s) := by
  rw [applyConversions, steps_foldl_gainFrom, steps_foldl_convertFrom, turns_all, List.flatMap_map]
  rfl

/-- In the end a type has its base and all shares of what is held, less what it hands out itself,
and the shares of the base that it gains. -/
theorem get_applyConversions : (applyConversions base conversions gains).damage.get t =
    base.get t + shares conversions.normalize DamageType.all (held base conversions) t -
      max 0 (held base conversions t) * conversions.normalize.outgoing t +
      shares gains DamageType.all base.get t := by
  rw [balanced_applyConversions base conversions gains t, converted_applyConversions, received,
    steps_applyConversions, moved_append, moved_flatMap, moved_flatMap]
  simp only [moved_outflow, shares]
  ring

/-- Something moves to a type exactly when another holds something at its turn, or has it at first,
and a positive fraction goes to the type. -/
theorem exists_mem_steps_iff :
    (∃ step ∈ (applyConversions base conversions gains).steps, step.target = t) ↔
      (∃ s, 0 < held base conversions s ∧ 0 < conversions.normalize.get s t) ∨
        ∃ s, 0 < base.get s ∧ 0 < gains.get s t := by
  have hrow (f : DamageType → List (ConversionStep Rat)) :
      (∃ step ∈ DamageType.all.flatMap f, step.target = t) ↔
        ∃ s, ∃ step ∈ f s, step.target = t := by
    simp only [List.mem_flatMap, DamageType.mem_all, true_and]
    constructor
    · rintro ⟨step, ⟨s, hstep⟩, htarget⟩
      exact ⟨s, step, hstep, htarget⟩
    · rintro ⟨s, step, hstep, htarget⟩
      exact ⟨step, ⟨s, hstep⟩, htarget⟩
  rw [steps_applyConversions]
  simp only [List.mem_append, or_and_right, exists_or, hrow, exists_mem_outflow_iff]

end ConversionResult

end Loadout
