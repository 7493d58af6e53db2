import Mathlib.Algebra.BigOperators.Group.List.Basic
import Mathlib.Algebra.Field.Rat
import Mathlib.Algebra.Order.Ring.Rat
import Loadout.Number.Scalar

/-!
# Totals of rationals

Over the rationals nothing is rounded, so totals can be taken in any order and parts that are
zero can be left out.

## Main results

* `Scalar.sum_rat`, `Scalar.product_rat`: totals are sums and products
* `Scalar.sum_append_rat`, `Scalar.sum_flatMap_rat`, `Scalar.product_flatMap_rat`: totals of lists
  one after the other
* `Scalar.sum_filter_ne_zero_rat`: zeros do not count
-/

namespace Loadout.Scalar

theorem zero_rat : (zero : Rat) = 0 :=
  rfl

/-- The left-to-right sum is the sum. -/
theorem sum_rat (xs : List Rat) : sum xs = xs.sum :=
  (List.sum_eq_foldl).symm

/-- The left-to-right product is the product. -/
theorem product_rat (xs : List Rat) : product xs = xs.prod :=
  (List.prod_eq_foldl).symm

/-- The sum of lists one after the other is the sum of their sums. -/
theorem sum_flatMap_rat {α : Type} (xs : List α) (f : α → List Rat) :
    sum (xs.flatMap f) = (xs.map fun x => sum (f x)).sum := by
  simp only [sum_rat, List.flatMap_def, List.sum_flatten, List.map_map, Function.comp_def]

/-- The product of lists one after the other is the product of their products. -/
theorem product_flatMap_rat {α : Type} (xs : List α) (f : α → List Rat) :
    product (xs.flatMap f) = (xs.map fun x => product (f x)).prod := by
  simp only [product_rat, List.flatMap_def, List.prod_flatten, List.map_map, Function.comp_def]

/-- The sum of two lists is the sum of their sums. -/
theorem sum_append_rat (xs ys : List Rat) : sum (xs ++ ys) = sum xs + sum ys := by
  rw [sum_rat, sum_rat, sum_rat, List.sum_append]

/-- Zeros do not count. -/
theorem sum_filter_ne_zero_rat (xs : List Rat) :
    sum (xs.filter fun x => !(x == zero)) = sum xs := by
  rw [sum_rat, sum_rat]
  induction xs with
  | nil => rfl
  | cons x xs ih =>
    by_cases hx : x = 0
    · rw [List.filter_cons_of_neg (by simp [hx, zero_rat]), ih, hx, List.sum_cons, zero_add]
    · rw [List.filter_cons_of_pos (by simpa [zero_rat] using hx), List.sum_cons, ih,
        List.sum_cons]

end Loadout.Scalar
