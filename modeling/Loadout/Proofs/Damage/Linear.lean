import Loadout.Proofs.Damage.Turns

/-!
# Conversion is linear in the base

A type that holds nothing or less is skipped at its turn, so conversion is not linear for any base.
From amounts none of which is negative no type comes to its turn with a negative amount, whatever
the signs of the fractions: a type may fall below zero, but only at its own turn. So skipping makes
no difference, and what each type holds is a linear function of the base, along the order of the
turns. The gains are computed from the base alone and stand beside the conversions as a sum of their
own.

## Main definitions

* `DamageVector.add`, `DamageVector.scale`: amounts together and multiples of amounts
* `DamageVector.Combines`: a base that is made of two others with a factor for each

## Main results

* `ConversionResult.held_combines`: what is held at each turn is made likewise
* `ConversionResult.get_combines`: and so is the damage in the end
* `applyConversions_linear`: sums and multiples of bases, and the gains apart
-/

namespace Loadout

namespace DamageVector

/-- Two families of amounts together. -/
def add (a b : DamageVector Rat) : DamageVector Rat :=
  ⟨a.physical + b.physical, a.lightning + b.lightning, a.cold + b.cold, a.fire + b.fire,
    a.chaos + b.chaos⟩

/-- Every amount multiplied by a factor. -/
def scale (k : Rat) (a : DamageVector Rat) : DamageVector Rat :=
  a.map (k * ·)

theorem get_add (a b : DamageVector Rat) (t : DamageType) :
    (a.add b).get t = a.get t + b.get t := by
  cases t <;> rfl

theorem get_scale (k : Rat) (a : DamageVector Rat) (t : DamageType) :
    (a.scale k).get t = k * a.get t :=
  ByType.get_map _ a t

/-- A base is made of two others, none of whose amounts is negative, with a factor for each that is
not negative either. -/
structure Combines (j : Rat) (a : DamageVector Rat) (k : Rat) (b d : DamageVector Rat) : Prop where
  get_eq : ∀ t, d.get t = j * a.get t + k * b.get t
  left_nonneg : ∀ t, 0 ≤ a.get t
  right_nonneg : ∀ t, 0 ≤ b.get t
  factors_nonneg : 0 ≤ j ∧ 0 ≤ k

theorem Combines.nonneg {j k : Rat} {a b d : DamageVector Rat} (h : Combines j a k b d)
    (t : DamageType) : 0 ≤ d.get t := by
  rw [h.get_eq t]
  exact add_nonneg (mul_nonneg h.factors_nonneg.1 (h.left_nonneg t))
    (mul_nonneg h.factors_nonneg.2 (h.right_nonneg t))

theorem combines_add {a b : DamageVector Rat} (ha : ∀ t, 0 ≤ a.get t) (hb : ∀ t, 0 ≤ b.get t) :
    Combines 1 a 1 b (a.add b) where
  get_eq t := by rw [get_add, one_mul, one_mul]
  left_nonneg := ha
  right_nonneg := hb
  factors_nonneg := ⟨zero_le_one, zero_le_one⟩

theorem combines_scale {k : Rat} (hk : 0 ≤ k) {a : DamageVector Rat} (ha : ∀ t, 0 ≤ a.get t) :
    Combines k a 0 a (a.scale k) where
  get_eq t := by rw [get_scale, zero_mul, add_zero]
  left_nonneg := ha
  right_nonneg := ha
  factors_nonneg := ⟨hk, le_rfl⟩

end DamageVector

namespace ConversionResult

open DamageVector (Combines)

/-- What counts of combined amounts, none of them negative, is combined likewise. -/
private theorem max_combination {x y z j k : Rat} (hx : 0 ≤ x) (hy : 0 ≤ y) (hz : 0 ≤ z)
    (h : z = j * x + k * y) : max 0 z = j * max 0 x + k * max 0 y := by
  rw [max_eq_right hx, max_eq_right hy, max_eq_right hz, h]

theorem shares_combination {types : List DamageType} {x y z : DamageType → Rat} {j k : Rat}
    (h : ∀ s ∈ types, max 0 (z s) = j * max 0 (x s) + k * max 0 (y s))
    (m : ConversionMatrix Rat) (t : DamageType) :
    shares m types z t = j * shares m types x t + k * shares m types y t := by
  have hshare (s : DamageType) (hs : s ∈ types) : max 0 (z s) * max 0 (m.get s t) =
      j * (max 0 (x s) * max 0 (m.get s t)) + k * (max 0 (y s) * max 0 (m.get s t)) := by
    rw [h s hs, add_mul, mul_assoc, mul_assoc]
  rw [shares, List.map_congr_left hshare, List.sum_map_add, List.sum_map_mul_left,
    List.sum_map_mul_left]
  rfl

/-- From amounts none of which is negative a type comes to its turn with none. -/
theorem held_nonneg {base : DamageVector Rat} (h : ∀ t, 0 ≤ base.get t)
    (conversions : ConversionMatrix Rat) (t : DamageType) : 0 ≤ held base conversions t :=
  (h t).trans (base_le_held base conversions t)

section Combined

variable {j k : Rat} {a b d : DamageVector Rat} (h : Combines j a k b d)
  (conversions gains : ConversionMatrix Rat) (t : DamageType)

include h

/-- What a type holds at its turn is made of what it would hold from either base. -/
theorem held_combines :
    held d conversions t = j * held a conversions t + k * held b conversions t := by
  induction t using DamageType.earlier_induction with
  | h t ih =>
    have hearlier (s : DamageType) (hs : s ∈ t.earlier) : max 0 (held d conversions s) =
        j * max 0 (held a conversions s) + k * max 0 (held b conversions s) :=
      max_combination (held_nonneg h.left_nonneg conversions s)
        (held_nonneg h.right_nonneg conversions s) (held_nonneg h.nonneg conversions s) (ih s hs)
    rw [held_eq d, held_eq a, held_eq b, h.get_eq t, shares_combination hearlier]
    ring

/-- The damage of a type in the end is made of what it would be from either base. -/
theorem get_combines : (applyConversions d conversions gains).damage.get t =
    j * (applyConversions a conversions gains).damage.get t +
      k * (applyConversions b conversions gains).damage.get t := by
  have hheld (s : DamageType) : max 0 (held d conversions s) =
      j * max 0 (held a conversions s) + k * max 0 (held b conversions s) :=
    max_combination (held_nonneg h.left_nonneg conversions s)
      (held_nonneg h.right_nonneg conversions s) (held_nonneg h.nonneg conversions s)
      (held_combines h conversions s)
  have hbase (s : DamageType) : max 0 (d.get s) = j * max 0 (a.get s) + k * max 0 (b.get s) :=
    max_combination (h.left_nonneg s) (h.right_nonneg s) (h.nonneg s) (h.get_eq s)
  rw [get_applyConversions d, get_applyConversions a, get_applyConversions b, h.get_eq t,
    shares_combination fun s _ => hheld s, shares_combination fun s _ => hbase s, hheld t]
  ring

end Combined

theorem shares_empty (types : List DamageType) (amount : DamageType → Rat) (t : DamageType) :
    shares .empty types amount t = 0 := by
  simp only [shares, ConversionMatrix.get_empty, Scalar.zero_rat, max_self, mul_zero,
    List.map_const', List.sum_replicate, nsmul_zero]

/-- The gains stand beside the conversions: they add the shares of the base. -/
theorem get_applyConversions_gains (base : DamageVector Rat)
    (conversions gains : ConversionMatrix Rat) (t : DamageType) :
    (applyConversions base conversions gains).damage.get t =
      (applyConversions base conversions .empty).damage.get t +
        shares gains DamageType.all base.get t := by
  rw [get_applyConversions base conversions gains, get_applyConversions base conversions .empty,
    shares_empty, add_zero]

end ConversionResult

open ConversionResult DamageVector

/-- From bases without negative amounts and for any two matrices, whatever the signs of their
fractions: the damage from two bases together is the damage from each together, the damage from a
multiple of a base is the multiple of its damage, and gains add to the damage without them what
each type gains of what every type had at first. -/
theorem applyConversions_linear {a b : DamageVector Rat} (ha : ∀ t, 0 ≤ a.get t)
    (hb : ∀ t, 0 ≤ b.get t) {k : Rat} (hk : 0 ≤ k) (conversions gains : ConversionMatrix Rat) :
    (applyConversions (a.add b) conversions gains).damage =
        (applyConversions a conversions gains).damage.add
          (applyConversions b conversions gains).damage ∧
      (applyConversions (a.scale k) conversions gains).damage =
        (applyConversions a conversions gains).damage.scale k ∧
      ∀ t, (applyConversions a conversions gains).damage.get t =
        (applyConversions a conversions .empty).damage.get t +
          (DamageType.all.map fun s => a.get s * max (gains.get s t) 0).sum := by
  refine ⟨ByType.ext_get fun t => ?_, ByType.ext_get fun t => ?_, fun t => ?_⟩
  · rw [get_combines (combines_add ha hb), one_mul, one_mul, DamageVector.get_add]
  · rw [get_combines (combines_scale hk ha), zero_mul, add_zero, get_scale]
  · have hshare (s : DamageType) :
        max 0 (a.get s) * max 0 (gains.get s t) = a.get s * max (gains.get s t) 0 := by
      rw [max_eq_right (ha s), max_comm]
    rw [get_applyConversions_gains, shares]
    simp only [hshare]

/-- Physical damage converts in excess because a negative fraction hides it, and lightning takes its
turn with what it received. -/
theorem applyConversions_linear_chain :
    let a : DamageVector Rat := ⟨100, 0, 0, 0, 0⟩
    let b : DamageVector Rat := ⟨0, 40, 0, 0, 20⟩
    let conversions := ConversionMatrix.ofEntries [(.physical, .lightning, 3 / 2),
      (.physical, .cold, -1 / 2), (.lightning, .fire, 1 / 2)]
    let gains := ConversionMatrix.ofEntries [(.physical, .chaos, 1 / 5), (.physical, .fire, -1)]
    (∀ t, 0 ≤ a.get t) ∧ (∀ t, 0 ≤ b.get t) ∧ (0 : Rat) ≤ 3 ∧
      (applyConversions a conversions gains).damage = ⟨-50, 75, 0, 75, 20⟩ ∧
      (applyConversions (a.add b) conversions gains).damage =
        (applyConversions a conversions gains).damage.add
          (applyConversions b conversions gains).damage ∧
      (applyConversions (a.scale 3) conversions gains).damage =
        (applyConversions a conversions gains).damage.scale 3 ∧
      ∀ t, (applyConversions a conversions gains).damage.get t =
        (applyConversions a conversions .empty).damage.get t +
          (DamageType.all.map fun s => a.get s * max (gains.get s t) 0).sum := by
  intro a b conversions gains
  have ha (t : DamageType) : 0 ≤ a.get t := by
    cases t <;> decide
  have hb (t : DamageType) : 0 ≤ b.get t := by
    cases t <;> decide
  have hk : (0 : Rat) ≤ 3 := by decide
  exact ⟨ha, hb, hk, by decide +kernel, applyConversions_linear ha hb hk conversions gains⟩

end Loadout
