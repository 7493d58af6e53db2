import Loadout.Number.Scalar

/-!
# Numbers that comparison does not tell apart

On doubles the equality test is not identity: it holds between the two zeros, and it fails
between NaN and itself. What is taken over from an earlier computation because a test found
no difference is therefore not the same number, but one alike: the same, or equal by the
test. Where the test is symmetric and transitive, likeness is an equivalence; it is identity
where the test is.

## Main definitions

* `Scalar.Alike`: two numbers are the same, or the equality test holds between them

## Main results

* `Scalar.Alike.symm`, `Scalar.Alike.trans`: likeness is an equivalence
* `beq_unpacked_iff`: what the equality test of doubles means
* the equality test of doubles is symmetric and transitive
-/

namespace Loadout

namespace Scalar

variable {ν : Type} [BEq ν]

/-- Two numbers are the same, or the equality test does not tell them apart. -/
def Alike (x y : ν) : Prop :=
  x = y ∨ x == y

namespace Alike

theorem refl (x : ν) : Alike x x :=
  .inl rfl

variable [PartialEquivBEq ν] {x y z : ν}

theorem symm (h : Alike x y) : Alike y x := by
  rcases h with rfl | h
  · exact refl x
  · exact .inr (PartialEquivBEq.symm h)

theorem trans (h : Alike x y) (h' : Alike y z) : Alike x z := by
  rcases h with rfl | h
  · exact h'
  · rcases h' with rfl | h'
    · exact .inr h
    · exact .inr (PartialEquivBEq.trans h h')

end Alike

/-- Likeness is identity where the equality test is. -/
theorem alike_iff_eq [LawfulBEq ν] {x y : ν} : Alike x y ↔ x = y := by
  simp only [Alike, beq_iff_eq, or_self]

end Scalar

/-! ### Doubles -/

section Unpacked

open Float.Model UnpackedFloat

private theorem compare_finite_iff (s : UnpackedFloat.Sign) (m n : Nat) (e f : Int)
    (hm : 0 < m) (hn : 0 < n) :
    (finite s m e hm).compare (finite s n f hn) = some .eq ↔ m = n ∧ e = f := by
  -- The order of finite numbers looks at the exponents first.
  have key : (compare e f).then (compare m n) = .eq ↔ m = n ∧ e = f := by
    simp only [Ordering.then_eq_eq, Std.compare_eq_iff_eq, and_comm]
  cases s with
  | positive =>
    change some ((compare e f).then (compare m n)) = some .eq ↔ _
    rw [Option.some_inj, key]
  | negative =>
    change some ((compare e f).then (compare m n)).swap = some .eq ↔ _
    rw [Option.some_inj, Ordering.swap_eq_eq, key]

/-- Numbers compare as equal when they are zeros of either sign, or one number that is not
NaN. -/
private theorem compare_eq_iff (a b : UnpackedFloat) : a.compare b = some .eq ↔
    (∃ s t, a = .zero s ∧ b = .zero t) ∨ (a = b ∧ a ≠ .notANumber) := by
  constructor
  · intro h
    cases a with
    | notANumber => cases b <;> cases h
    | infinity s =>
      cases b with
      | infinity t => cases s <;> cases t <;> cases h <;> exact .inr ⟨rfl, nofun⟩
      | _ => cases s <;> cases h
    | zero s =>
      cases b with
      | notANumber => cases h
      | infinity t => cases t <;> cases h
      | zero t => exact .inl ⟨s, t, rfl, rfl⟩
      | finite t => cases t <;> cases h
    | finite s m e hm =>
      cases b with
      | notANumber => cases s <;> cases h
      | infinity t => cases s <;> cases t <;> cases h
      | zero t => cases s <;> cases h
      | finite t n f hn =>
        obtain rfl : s = t := by
          cases s <;> cases t <;> first | rfl | cases h
        obtain ⟨rfl, rfl⟩ := (compare_finite_iff s m n e f hm hn).1 h
        exact .inr ⟨rfl, nofun⟩
  · rintro (⟨s, t, rfl, rfl⟩ | ⟨rfl, ha⟩)
    · rfl
    · cases a with
      | notANumber => exact absurd rfl ha
      | infinity s => cases s <;> rfl
      | zero s => rfl
      | finite s m e hm => exact (compare_finite_iff s m m e e hm hm).2 ⟨rfl, rfl⟩

/-- The equality test of doubles holds between zeros of either sign, and between a number and
itself unless it is NaN. -/
theorem beq_unpacked_iff (a b : UnpackedFloat) : a.beq b = true ↔
    (∃ s t, a = .zero s ∧ b = .zero t) ∨ (a = b ∧ a ≠ .notANumber) :=
  beq_iff_eq.trans (compare_eq_iff a b)

end Unpacked

private theorem float_beq_iff (x y : Float) : (x == y) = true ↔
    (∃ s t, x.toModel.unpack = .zero s ∧ y.toModel.unpack = .zero t) ∨
      (x.toModel.unpack = y.toModel.unpack ∧ x.toModel.unpack ≠ .notANumber) :=
  beq_unpacked_iff x.toModel.unpack y.toModel.unpack

instance partialEquivBEqFloat : PartialEquivBEq Float where
  symm {x y} h := by
    rw [float_beq_iff] at h ⊢
    rcases h with ⟨s, t, hx, hy⟩ | ⟨hxy, hx⟩
    · exact .inl ⟨t, s, hy, hx⟩
    · exact .inr ⟨hxy.symm, hxy ▸ hx⟩
  trans {x y z} h h' := by
    rw [float_beq_iff] at h h' ⊢
    rcases h with ⟨s, t, hx, hy⟩ | ⟨hxy, hx⟩
    · rcases h' with ⟨_, u, _, hz⟩ | ⟨hyz, _⟩
      · exact .inl ⟨s, u, hx, hz⟩
      · exact .inl ⟨s, t, hx, hyz ▸ hy⟩
    · rcases h' with ⟨t, u, hy, hz⟩ | ⟨hyz, _⟩
      · exact .inl ⟨t, u, hxy.trans hy, hz⟩
      · exact .inr ⟨hxy.trans hyz, hx⟩

end Loadout
