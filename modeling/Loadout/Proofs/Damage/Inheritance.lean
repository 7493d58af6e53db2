import Loadout.Proofs.Damage.Turns
import Loadout.Proofs.Damage.Upstream

/-!
# The inheritance chain is where damage comes from

The chain of a type is found by a search against the edges of a matrix. Damage is moved forward, in
one pass in the order of the types, after the matrix is normalized. Both follow the positive
fractions: normalizing keeps signs, and from one type alone exactly those types hold something at
their turn to which a path leads. No amounts cancel, for before its turn a type only receives, and
the one pass suffices, because fractions lead to later types only.

## Main definitions

* `ConversionMatrix.Forward`: fractions for pairs that can convert alone
* `DamageVector.single`: damage of one type alone

## Main results

* `ConversionMatrix.forward_ofEntries`: matrices that are made of entries lead forward
* `ConversionResult.held_single_pos_iff`: which types hold something at their turn
* `mem_inheritanceChain_iff`: the chain holds the types whose damage moves to the type
-/

namespace Loadout

open Relation (ReflTransGen TransGen)

namespace ConversionMatrix

/-- Only pairs that can convert have a fraction. -/
def Forward (m : ConversionMatrix Rat) : Prop :=
  ∀ source target, m.get source target ≠ 0 → source.converts target = true

/-- A positive fraction goes from one type to another. -/
def Feeds (m : ConversionMatrix Rat) (source target : DamageType) : Prop :=
  0 < m.get source target

theorem forward_empty : Forward .empty :=
  fun source target h => absurd (get_empty source target) h

/-- Entries for pairs that cannot convert are dropped. -/
theorem forward_ofEntries (entries : List (DamageType × DamageType × Rat)) :
    (ofEntries entries).Forward := by
  refine List.foldlRecOn (motive := Forward) entries _ forward_empty fun m hm entry _ => ?_
  intro source target h
  rw [get_add] at h
  split at h
  · next hpair => exact hpair.2.1 ▸ hpair.2.2 ▸ hpair.1
  · exact hm source target h

theorem feeds_normalize_iff (m : ConversionMatrix Rat) (source target : DamageType) :
    m.normalize.Feeds source target ↔ m.Feeds source target := by
  rw [Feeds, get_normalize]
  split
  · next h => exact div_pos_iff_of_pos_right (zero_lt_one.trans h)
  · rfl

namespace Forward

variable {m : ConversionMatrix Rat} (hm : m.Forward) {s t : DamageType}

include hm

theorem mem_earlier_of_feeds (h : m.Feeds s t) : s ∈ t.earlier :=
  DamageType.mem_earlier_iff.mpr (hm s t h.ne')

theorem rank_lt_of_path (h : TransGen m.Feeds s t) : s.rank < t.rank := by
  have hstep {s t : DamageType} (h : m.Feeds s t) : s.rank < t.rank :=
    of_decide_eq_true (hm s t h.ne')
  induction h with
  | single h => exact hstep h
  | tail _ h ih => exact ih.trans (hstep h)

/-- A path to another type has a step, and one with a step leads to another type. -/
theorem transGen_iff : TransGen m.Feeds s t ↔ s ≠ t ∧ ReflTransGen m.Feeds s t := by
  constructor
  · intro h
    refine ⟨?_, h.to_reflTransGen⟩
    rintro rfl
    exact absurd (hm.rank_lt_of_path h) (lt_irrefl _)
  · rintro ⟨hne, h⟩
    exact (Relation.reflTransGen_iff_eq_or_transGen.mp h).resolve_left (Ne.symm hne)

end Forward

end ConversionMatrix

open ConversionMatrix

/-- Damage of one type alone. -/
def DamageVector.single (t : DamageType) (x : Rat) : DamageVector Rat :=
  DamageVector.zero.set t x

theorem DamageVector.get_single (s t : DamageType) (x : Rat) :
    (single s x).get t = if s = t then x else 0 := by
  cases s <;> cases t <;> rfl

namespace ConversionResult

private theorem share_pos_iff {x y : Rat} : 0 < max 0 x * max 0 y ↔ 0 < x ∧ 0 < y := by
  rcases le_or_gt x 0 with hx | hx
  · rw [max_eq_left hx, zero_mul]
    exact iff_of_false (lt_irrefl 0) fun h => absurd h.1 (not_lt.mpr hx)
  · rw [max_eq_right hx.le, mul_pos_iff_of_pos_left hx, lt_max_iff, or_iff_right (lt_irrefl 0),
      and_iff_right hx]

/-- Amounts that are not negative do not cancel. -/
private theorem add_pos_iff_or {x y : Rat} (hx : 0 ≤ x) (hy : 0 ≤ y) :
    0 < x + y ↔ 0 < x ∨ 0 < y := by
  constructor
  · intro h
    by_contra hnone
    obtain ⟨hx', hy'⟩ := not_or.mp hnone
    exact absurd h (not_lt.mpr (add_nonpos (not_lt.mp hx') (not_lt.mp hy')))
  · rintro (h | h)
    · exact add_pos_of_pos_of_nonneg h hy
    · exact add_pos_of_nonneg_of_pos hx h

theorem shares_nonneg (m : ConversionMatrix Rat) (types : List DamageType)
    (amount : DamageType → Rat) (t : DamageType) : 0 ≤ shares m types amount t := by
  refine List.sum_nonneg fun x hx => ?_
  obtain ⟨s, -, rfl⟩ := List.mem_map.mp hx
  exact mul_nonneg (le_max_left _ _) (le_max_left _ _)

/-- Something arrives at a type exactly when one of the types holds something and feeds it. -/
theorem shares_pos_iff {m : ConversionMatrix Rat} {types : List DamageType}
    {amount : DamageType → Rat} {t : DamageType} :
    0 < shares m types amount t ↔ ∃ s ∈ types, 0 < amount s ∧ m.Feeds s t := by
  induction types with
  | nil => simp [shares]
  | cons s types ih =>
    have hcons : shares m (s :: types) amount t =
        max 0 (amount s) * max 0 (m.get s t) + shares m types amount t := List.sum_cons
    rw [hcons, add_pos_iff_or (mul_nonneg (le_max_left _ _) (le_max_left _ _))
      (shares_nonneg m types amount t), share_pos_iff, ih, List.exists_mem_cons_iff]
    rfl

/-- From one type alone, those types hold something at their turn to which a path leads. -/
theorem held_single_pos_iff {m : ConversionMatrix Rat} (hm : m.Forward) {x : Rat} (hx : 0 < x)
    (s t : DamageType) : 0 < held (.single s x) m t ↔ ReflTransGen m.Feeds s t := by
  induction t using DamageType.earlier_induction with
  | h t ih =>
    have hbase : 0 ≤ (DamageVector.single s x).get t := by
      rw [DamageVector.get_single]
      split
      · exact hx.le
      · exact le_rfl
    have hself : 0 < (DamageVector.single s x).get t ↔ t = s := by
      rw [DamageVector.get_single]
      split
      · next h => exact iff_of_true hx h.symm
      · next h => exact iff_of_false (lt_irrefl 0) (Ne.symm h)
    have hfed : (∃ u ∈ t.earlier, 0 < held (.single s x) m u ∧ m.normalize.Feeds u t) ↔
        ∃ u, ReflTransGen m.Feeds s u ∧ m.Feeds u t := by
      constructor
      · rintro ⟨u, hu, hheld, hfeeds⟩
        exact ⟨u, (ih u hu).mp hheld, (m.feeds_normalize_iff u t).mp hfeeds⟩
      · rintro ⟨u, hpath, hfeeds⟩
        have hu := hm.mem_earlier_of_feeds hfeeds
        exact ⟨u, hu, (ih u hu).mpr hpath, (m.feeds_normalize_iff u t).mpr hfeeds⟩
    rw [held_eq, add_pos_iff_or hbase (shares_nonneg ..), hself, shares_pos_iff, hfed,
      Relation.ReflTransGen.cases_tail_iff]

end ConversionResult

/-- For any matrix whose fractions are for pairs that can convert, whatever their signs: a type is
in the inheritance chain of another exactly when conversion of any positive amount of it alone,
without gains, moves something to the other; and the chain comes in the order of the types. -/
theorem mem_inheritanceChain_iff {m : ConversionMatrix Rat} (hm : m.Forward) {x : Rat} (hx : 0 < x)
    (source final : DamageType) :
    (source ∈ inheritanceChain final m ↔
        ∃ step ∈ (applyConversions (.single source x) m .empty).steps, step.target = final) ∧
      (inheritanceChain final m).Pairwise fun s t => s.rank < t.rank := by
  refine ⟨?_, ConversionGraph.pairwise_upstream _ final⟩
  have hedge : (ConversionGraph.ofMatrix m).Edge = m.Feeds := by
    funext s t
    exact propext ConversionGraph.edge_ofMatrix_iff
  have hgains : ¬ ∃ s, 0 < (DamageVector.single source x).get s ∧
      0 < (ConversionMatrix.empty : ConversionMatrix Rat).get s final := by
    rintro ⟨s, -, hpos⟩
    rw [get_empty] at hpos
    exact absurd hpos (lt_irrefl 0)
  calc source ∈ inheritanceChain final m
      ↔ source ≠ final ∧ ReflTransGen m.Feeds source final := by
        rw [inheritanceChain, ConversionGraph.mem_upstream_iff, hedge]
    _ ↔ ∃ s, ReflTransGen m.Feeds source s ∧ m.Feeds s final := by
        rw [← hm.transGen_iff, TransGen.tail'_iff]
    _ ↔ ∃ s, 0 < ConversionResult.held (.single source x) m s ∧
          0 < m.normalize.get s final := by
        refine exists_congr fun s => ?_
        rw [ConversionResult.held_single_pos_iff hm hx, ← m.feeds_normalize_iff]
        rfl
    _ ↔ ∃ step ∈ (applyConversions (.single source x) m .empty).steps, step.target = final := by
        rw [ConversionResult.exists_mem_steps_iff, or_iff_left hgains]

/-- Physical damage ends up as chaos damage through lightning and fire. A negative fraction leads
nowhere, and lightning gives away more than all of its damage before the matrix is normalized. -/
theorem mem_inheritanceChain_iff_chain :
    let m := ConversionMatrix.ofEntries [(.physical, .lightning, 1 / 2), (.physical, .cold, -1),
      (.lightning, .fire, 2), (.fire, .chaos, 1 / 4), (.cold, .chaos, 1)]
    m.Forward ∧ (0 : Rat) < 3 ∧
      inheritanceChain .chaos m = [.physical, .lightning, .cold, .fire] ∧
      ((.physical ∈ inheritanceChain .chaos m ↔
          ∃ step ∈ (applyConversions (.single .physical 3) m .empty).steps,
            step.target = .chaos) ∧
        (inheritanceChain .chaos m).Pairwise fun s t => s.rank < t.rank) ∧
      (applyConversions (.single .physical 3) m .empty).damage = ⟨3 / 2, 0, 0, 9 / 8, 3 / 8⟩ := by
  intro m
  have hm : m.Forward := forward_ofEntries _
  have hpos : (0 : Rat) < 3 := by decide
  exact ⟨hm, hpos, by decide +kernel, mem_inheritanceChain_iff hm hpos .physical .chaos,
    by decide +kernel⟩

end Loadout
