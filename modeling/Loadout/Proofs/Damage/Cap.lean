import Mathlib.Algebra.BigOperators.Ring.List
import Mathlib.Algebra.Order.BigOperators.Group.List
import Mathlib.Algebra.Order.Field.Basic
import Loadout.Proofs.Damage.Ledger

/-!
# The cap on conversion

A type should give away no more than all of its damage. Normalizing scales a row down when its
total exceeds one, and this total counts negative fractions, while at its turn a type hands out
the positive fractions alone. So the cap holds where a row has no negative fraction, or where the
positive ones stay within one by themselves. Elsewhere the type gives away more than it
holds.

What a type holds at its turn is what it had and what came from earlier types, for at any other
type's turn it can only receive.

## Main definitions

* `ConversionMatrix.outgoing`: the fraction that a type hands out
* `ConversionMatrix.Capped`: the rows that the cap covers
* `ConversionResult.held`: what a type holds at its turn

## Main results

* `ConversionMatrix.outgoing_normalize_le_one_iff`: a normalized row hands out at most everything
  exactly when the cap covers it
* `ConversionResult.converted_applyConversions`: what a type gives away in all
* `ConversionResult.converted_le_held_iff`: when conversion is capped
* `ConversionResult.held_lt_converted`: an input where it is not
-/

namespace Loadout

namespace ConversionMatrix

/-! ### Rows -/

/-- The fraction that a type hands out at its turn. -/
def outgoing (m : ConversionMatrix Rat) (source : DamageType) : Rat :=
  ((m.targets source).map (·.2)).sum

/-- The rows that the cap covers: no fraction is negative, or the positive ones stay within one. -/
def Capped (m : ConversionMatrix Rat) (source : DamageType) : Prop :=
  (∀ target, 0 ≤ m.get source target) ∨ m.outgoing source ≤ 1

/-- Numbers that are not positive can be left out when the others count in full. -/
private theorem sum_filter_pos {α : Type} (f : α → Rat) (xs : List α) :
    ((xs.filter fun x => 0 < f x).map f).sum = (xs.map fun x => max 0 (f x)).sum := by
  induction xs with
  | nil => rfl
  | cons x xs ih =>
    rw [List.filter_cons, List.map_cons, List.sum_cons, ← ih]
    by_cases hx : 0 < f x
    · rw [if_pos (decide_eq_true hx), List.map_cons, List.sum_cons, max_eq_right hx.le]
    · rw [if_neg (mt of_decide_eq_true hx), max_eq_left (not_lt.mp hx), zero_add]

theorem outgoing_eq (m : ConversionMatrix Rat) (source : DamageType) :
    m.outgoing source = (DamageType.all.map fun target => max 0 (m.get source target)).sum := by
  have h := sum_filter_pos (fun entry : DamageType × Rat => entry.2)
    (DamageType.all.map fun target => (target, m.get source target))
  rw [List.map_map] at h
  exact h

theorem total_eq (m : ConversionMatrix Rat) (source : DamageType) :
    m.total source = (DamageType.all.map fun target => m.get source target).sum :=
  DamageVector.total_rat _

theorem total_le_outgoing (m : ConversionMatrix Rat) (source : DamageType) :
    m.total source ≤ m.outgoing source := by
  rw [total_eq, outgoing_eq]
  exact List.sum_le_sum fun target _ => le_max_right 0 (m.get source target)

/-- It hands out no more than the total exactly when no fraction is negative. -/
theorem outgoing_le_total_iff (m : ConversionMatrix Rat) (source : DamageType) :
    m.outgoing source ≤ m.total source ↔ ∀ target, 0 ≤ m.get source target := by
  rw [outgoing_eq, total_eq]
  constructor
  · intro h target
    by_contra hneg
    have hlt : (DamageType.all.map fun target => m.get source target).sum <
        (DamageType.all.map fun target => max 0 (m.get source target)).sum :=
      List.sum_lt_sum _ _ (fun target _ => le_max_right 0 (m.get source target))
        ⟨target, target.mem_all, lt_max_of_lt_left (not_le.mp hneg)⟩
    exact absurd h (not_le.mpr hlt)
  · intro h
    exact List.sum_le_sum fun target _ => max_le (h target) le_rfl

theorem get_normalize (m : ConversionMatrix Rat) (source target : DamageType) :
    m.normalize.get source target =
      if 1 < m.total source then m.get source target / m.total source
      else m.get source target := by
  rw [get, normalize, ByType.get_map, normalizeRow]
  change ByType.get (if 1 < m.total source then _ else _) target = _
  split
  · rw [ByType.get_map]
    rfl
  · rfl

theorem outgoing_normalize (m : ConversionMatrix Rat) (source : DamageType) :
    m.normalize.outgoing source =
      if 1 < m.total source then m.outgoing source / m.total source else m.outgoing source := by
  rw [outgoing_eq, outgoing_eq]
  by_cases h : 1 < m.total source
  · have hpos : 0 < m.total source := zero_lt_one.trans h
    have hpart (target : DamageType) : max 0 (m.normalize.get source target) =
        max 0 (m.get source target) * (m.total source)⁻¹ := by
      rw [get_normalize, if_pos h, div_eq_mul_inv, max_mul_of_nonneg _ _ (inv_pos.mpr hpos).le,
        zero_mul]
    simp only [hpart, if_pos h, List.sum_map_mul_right, div_eq_mul_inv]
  · simp only [get_normalize, if_neg h]

/-- A normalized row hands out at most everything exactly when the cap covers it. -/
theorem outgoing_normalize_le_one_iff (m : ConversionMatrix Rat) (source : DamageType) :
    m.normalize.outgoing source ≤ 1 ↔ m.Capped source := by
  have hle := m.total_le_outgoing source
  rw [outgoing_normalize, Capped, ← outgoing_le_total_iff]
  by_cases h : 1 < m.total source
  · rw [if_pos h, div_le_one (zero_lt_one.trans h)]
    -- The positive fractions alone exceed one as well.
    exact ⟨.inl, fun hcapped => hcapped.resolve_right (not_le.mpr (h.trans_le hle))⟩
  · rw [if_neg h]
    exact ⟨.inr, fun hcapped => hcapped.elim (·.trans (not_lt.mp h)) id⟩

theorem get_ofEntries_nonneg {entries : List (DamageType × DamageType × Rat)}
    (h : ∀ entry ∈ entries, 0 ≤ entry.2.2) (source target : DamageType) :
    0 ≤ (ofEntries entries).get source target := by
  have hempty (source target : DamageType) : 0 ≤ (empty : ConversionMatrix Rat).get source target :=
    (get_empty source target).ge
  refine List.foldlRecOn (motive := fun m : ConversionMatrix Rat =>
    ∀ source target, 0 ≤ m.get source target) entries _ hempty ?_ source target
  intro m hm entry hentry source target
  rw [get_add]
  split
  · exact add_nonneg (hm source target) (h entry hentry)
  · exact hm source target

end ConversionMatrix

namespace ConversionResult

/-! ### Turns -/

theorem sum_outflow (kind : StepKind) (m : ConversionMatrix Rat) (source : DamageType)
    (amount : Rat) : ((outflow kind m source amount).map (·.amount)).sum =
      max 0 amount * m.outgoing source := by
  unfold outflow
  split
  · next h => rw [max_eq_left h, zero_mul, List.map_nil, List.sum_nil]
  · next h =>
    rw [max_eq_right (not_le.mp h).le, ConversionMatrix.outgoing, ← List.sum_map_mul_left, stepsOut,
      List.map_map]
    rfl

theorem moved_outflow_nonneg (test : ConversionStep Rat → Bool) (kind : StepKind)
    (m : ConversionMatrix Rat) (source : DamageType) (amount : Rat) :
    0 ≤ moved test (outflow kind m source amount) := by
  refine List.sum_nonneg fun x hx => ?_
  obtain ⟨step, hstep, rfl⟩ := List.mem_map.mp hx
  have hmem := (List.mem_filter.mp hstep).1
  unfold outflow at hmem
  split at hmem
  · cases hmem
  · next hamount =>
    obtain ⟨entry, hentry, rfl⟩ := List.mem_map.mp hmem
    have hfraction : 0 < entry.2 := of_decide_eq_true (List.mem_filter.mp hentry).2
    exact mul_nonneg (not_le.mp hamount).le hfraction.le

/-- At the turns of other types a type gives nothing away. -/
theorem converted_foldl_convertFrom {t : DamageType} {types : List DamageType} (h : t ∉ types)
    (m : ConversionMatrix Rat) (r : ConversionResult Rat) :
    (types.foldl (convertFrom m) r).converted t = r.converted t := by
  refine List.foldlRecOn (motive := fun r' : ConversionResult Rat =>
    r'.converted t = r.converted t) types _ rfl ?_
  intro r' hr' source hsource
  rw [converted_convertFrom, if_neg (ne_of_mem_of_not_mem hsource h), add_zero, hr']

theorem le_get_foldl_convertFrom {t : DamageType} {types : List DamageType} (h : t ∉ types)
    (m : ConversionMatrix Rat) (r : ConversionResult Rat) :
    r.damage.get t ≤ (types.foldl (convertFrom m) r).damage.get t := by
  refine List.foldlRecOn (motive := fun r' : ConversionResult Rat =>
    r.damage.get t ≤ r'.damage.get t) types _ le_rfl ?_
  intro r' hr' source hsource
  rw [get_convertFrom, if_neg (ne_of_mem_of_not_mem hsource h), sub_zero]
  exact hr'.trans (le_add_of_nonneg_right (moved_outflow_nonneg _ _ _ _ _))

theorem converted_foldl_gainFrom (types : List DamageType) (m : ConversionMatrix Rat)
    (base : DamageVector Rat) (r : ConversionResult Rat) (t : DamageType) :
    (types.foldl (gainFrom m base) r).converted t = r.converted t := by
  refine List.foldlRecOn (motive := fun r' : ConversionResult Rat =>
    r'.converted t = r.converted t) types _ rfl ?_
  intro r' hr' source _
  rw [converted_gainFrom, hr']

theorem le_get_foldl_gainFrom (types : List DamageType) (m : ConversionMatrix Rat)
    (base : DamageVector Rat) (r : ConversionResult Rat) (t : DamageType) :
    r.damage.get t ≤ (types.foldl (gainFrom m base) r).damage.get t := by
  refine List.foldlRecOn (motive := fun r' : ConversionResult Rat =>
    r.damage.get t ≤ r'.damage.get t) types _ le_rfl ?_
  intro r' hr' source _
  rw [get_gainFrom]
  exact hr'.trans (le_add_of_nonneg_right (moved_outflow_nonneg _ _ _ _ _))

/-! ### A type's own turn -/

theorem all_eq_around (t : DamageType) : DamageType.all =
    DamageType.all.takeWhile (· != t) ++ t :: DamageType.all.filter t.converts := by
  cases t <;> rfl

/-- The damage when a type's turn comes, under a normalized matrix. -/
def beforeTurn (m : ConversionMatrix Rat) (base : DamageVector Rat) (t : DamageType) :
    ConversionResult Rat :=
  (DamageType.all.takeWhile (· != t)).foldl (convertFrom m) (ofBase base)

/-- What a type holds when its turn comes. -/
def held (base : DamageVector Rat) (conversions : ConversionMatrix Rat) (t : DamageType) : Rat :=
  (beforeTurn conversions.normalize base t).damage.get t

theorem not_mem_before (t : DamageType) : t ∉ DamageType.all.takeWhile (· != t) := by
  cases t <;> decide

theorem not_mem_after (t : DamageType) : t ∉ DamageType.all.filter t.converts := by
  cases t <;> decide

/-- A type comes to its turn with at least what it had at first. -/
theorem base_le_held (base : DamageVector Rat) (conversions : ConversionMatrix Rat)
    (t : DamageType) : base.get t ≤ held base conversions t :=
  le_get_foldl_convertFrom (not_mem_before t) conversions.normalize (ofBase base)

/-- All that a type gives away is given at its own turn, out of what it holds then. -/
theorem converted_applyConversions (base : DamageVector Rat)
    (conversions gains : ConversionMatrix Rat) (t : DamageType) :
    (applyConversions base conversions gains).converted t =
      max 0 (held base conversions t) * conversions.normalize.outgoing t := by
  have hbefore : (beforeTurn conversions.normalize base t).converted t = 0 :=
    converted_foldl_convertFrom (not_mem_before t) conversions.normalize (ofBase base)
  calc (applyConversions base conversions gains).converted t
      = (DamageType.all.foldl (convertFrom conversions.normalize) (ofBase base)).converted t :=
        converted_foldl_gainFrom ..
    _ = (convertFrom conversions.normalize
          (beforeTurn conversions.normalize base t) t).converted t := by
        rw [all_eq_around t, List.foldl_append, List.foldl_cons,
          converted_foldl_convertFrom (not_mem_after t)]
        rfl
    _ = max 0 (held base conversions t) * conversions.normalize.outgoing t := by
        rw [converted_convertFrom, hbefore, if_pos rfl, sum_outflow, zero_add]
        rfl

/-- In the end a type has at least what it held at its turn less what it gave away. -/
theorem held_sub_converted_le (base : DamageVector Rat) (conversions gains : ConversionMatrix Rat)
    (t : DamageType) :
    held base conversions t - (applyConversions base conversions gains).converted t ≤
      (applyConversions base conversions gains).damage.get t := by
  have hturn : held base conversions t - (applyConversions base conversions gains).converted t ≤
      (convertFrom conversions.normalize
        (beforeTurn conversions.normalize base t) t).damage.get t := by
    rw [converted_applyConversions, get_convertFrom, if_pos rfl, sum_outflow]
    exact sub_le_sub_right (le_add_of_nonneg_right (moved_outflow_nonneg _ _ _ _ _)) _
  calc held base conversions t - (applyConversions base conversions gains).converted t
      ≤ (convertFrom conversions.normalize
          (beforeTurn conversions.normalize base t) t).damage.get t := hturn
    _ ≤ (DamageType.all.foldl (convertFrom conversions.normalize) (ofBase base)).damage.get t := by
        rw [all_eq_around t, List.foldl_append, List.foldl_cons]
        exact le_get_foldl_convertFrom (not_mem_after t) _ _
    _ ≤ (applyConversions base conversions gains).damage.get t := le_get_foldl_gainFrom ..

/-! ### When conversion is capped -/

/-- From amounts none of which is negative: a type gives away no more than it holds at its turn
exactly when it holds nothing or the cap covers its row. Where the cap covers the row the type ends
with no negative amount. Entries that are not negative make only such rows. -/
theorem converted_le_held_iff {base : DamageVector Rat} (hbase : ∀ t, 0 ≤ base.get t)
    (conversions gains : List (DamageType × DamageType × Rat)) (t : DamageType) :
    let m := ConversionMatrix.ofEntries conversions
    let r := applyConversions base m (.ofEntries gains)
    (r.converted t ≤ held base m t ↔ held base m t = 0 ∨ m.Capped t) ∧
      (m.Capped t → 0 ≤ r.damage.get t) ∧
      ((∀ entry ∈ conversions, 0 ≤ entry.2.2) → m.Capped t) := by
  intro m r
  have hheld : 0 ≤ held base m t := (hbase t).trans (base_le_held base m t)
  have hconverted : r.converted t = held base m t * m.normalize.outgoing t := by
    rw [converted_applyConversions, max_eq_right hheld]
  have hiff : r.converted t ≤ held base m t ↔ held base m t = 0 ∨ m.Capped t := by
    rw [hconverted, ← m.outgoing_normalize_le_one_iff]
    rcases hheld.eq_or_lt with hzero | hpos
    · simp [← hzero]
    · rw [mul_le_iff_le_one_right hpos]
      exact ⟨.inr, fun h => h.resolve_left hpos.ne'⟩
  refine ⟨hiff, fun hcapped => ?_, fun hentries => ?_⟩
  · have hle := hiff.mpr (.inr hcapped)
    exact (sub_nonneg.mpr hle).trans (held_sub_converted_le base m _ t)
  · exact .inl (ConversionMatrix.get_ofEntries_nonneg hentries t)

/-- Lightning receives more than its base and comes to its turn with a negative fraction, but hands
out half of what it holds. -/
theorem converted_le_held_iff_chain :
    let base : DamageVector Rat := ⟨100, 10, 0, 0, 0⟩
    let m := ConversionMatrix.ofEntries [(.physical, .lightning, 9 / 10), (.physical, .fire, 3 / 5),
      (.lightning, .cold, 1 / 2), (.lightning, .chaos, -1 / 4)]
    let r := applyConversions base m (.ofEntries [(.physical, .chaos, 1 / 5)])
    (∀ t, 0 ≤ base.get t) ∧ held base m .lightning = 70 ∧
      r.converted .lightning ≤ held base m .lightning ∧ 0 ≤ r.damage.get .lightning := by
  intro base m r
  have hbase (t : DamageType) : 0 ≤ base.get t := by
    cases t <;> decide
  have hcapped : m.Capped .lightning := .inr (by decide +kernel)
  obtain ⟨hiff, hdamage, -⟩ := converted_le_held_iff hbase
    [(.physical, .lightning, 9 / 10), (.physical, .fire, 3 / 5), (.lightning, .cold, 1 / 2),
      (.lightning, .chaos, -1 / 4)] [(.physical, .chaos, 1 / 5)] .lightning
  exact ⟨hbase, by decide +kernel, hiff.mpr (.inr hcapped), hdamage hcapped⟩

/-- Where a negative fraction hides that the positive one exceeds one, a type gives away twice what
it holds and ends below zero. -/
theorem held_lt_converted :
    let base : DamageVector Rat := ⟨100, 0, 0, 0, 0⟩
    let m := ConversionMatrix.ofEntries [(.physical, .fire, 2), (.physical, .cold, -1)]
    let r := applyConversions base m (.ofEntries [])
    (∀ t, 0 ≤ base.get t) ∧ held base m .physical < r.converted .physical ∧
      r.damage.get .physical < 0 := by
  intro base m r
  have hbase (t : DamageType) : 0 ≤ base.get t := by
    cases t <;> decide
  exact ⟨hbase, by decide +kernel, by decide +kernel⟩

end ConversionResult

end Loadout
