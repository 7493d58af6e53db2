/-!
# Scalars

Stat values are computed over any type of numbers with the operations below. The
engine runs on doubles, where each operation rounds; over the rationals the same
definitions are exact, which is where laws of arithmetic are stated.

Comparison is taken as the number type has it: on doubles nothing compares with
NaN, so `atMost` keeps its bound when the number is NaN.

## Main definitions

* `Scalar`: the operations that stat arithmetic needs
* `Scalar.atMost`: the smaller of a number and a bound
* `Scalar.sum`, `Scalar.product`: left-to-right totals

The instances are `Float` and `Rat`.
-/

namespace Loadout

/-- Numbers that stat values can be computed over. -/
class Scalar (ν : Type) extends Add ν, Sub ν, Mul ν, Div ν, LT ν, LE ν, BEq ν where
  /-- Whether a number is below another. -/
  decLt : (x y : ν) → Decidable (x < y)
  /-- Whether a number is at most another. -/
  decLe : (x y : ν) → Decidable (x ≤ y)
  /-- A whole number. -/
  ofInt : Int → ν
  /-- The number with a sign, a coefficient and a power of ten, rounded once. -/
  ofDecimal : Bool → Nat → Int → ν
  /-- The whole part, rounded down. -/
  floor : ν → ν
  /-- Whether the number is neither infinite nor undefined. -/
  isFinite : ν → Bool

attribute [reducible, instance] Scalar.decLt Scalar.decLe

namespace Scalar

variable {ν : Type} [Scalar ν]

/-- Zero. -/
def zero : ν := ofInt 0

/-- One. -/
def one : ν := ofInt 1

/-- The number, or the bound when the number is not at most the bound. -/
def atMost (x bound : ν) : ν :=
  if bound < x then bound else if x ≤ x then x else bound

/-- The left-to-right sum of a list, from zero. -/
def sum (xs : List ν) : ν :=
  xs.foldl (· + ·) zero

/-- The left-to-right product of a list, from one. -/
def product (xs : List ν) : ν :=
  xs.foldl (· * ·) one

end Scalar

/-- A double with a sign, a coefficient and a power of ten, correctly rounded. Beyond a power of
ten that no coefficient of its length can bring back into range, the number is infinite or zero. -/
def Float.ofSignedDecimal (negative : Bool) (coefficient : Nat) (exponent : Int) : Float :=
  let digits := (Nat.toDigits 10 coefficient).length
  let magnitude : Float :=
    if coefficient = 0 then 0.0
    else if 400 < exponent + digits then 1.0 / 0.0
    else if exponent + digits < -400 then 0.0
    else Float.ofScientific coefficient (exponent < 0) exponent.natAbs
  if negative then -magnitude else magnitude

/-- The double nearest to a whole number. -/
def Float.ofWhole (n : Int) : Float :=
  if n.natAbs < Nat.pow 2 53 then Float.ofInt n else Float.ofSignedDecimal (n < 0) n.natAbs 0

instance : Scalar Float where
  decLt := inferInstance
  decLe := inferInstance
  ofInt := Float.ofWhole
  ofDecimal := Float.ofSignedDecimal
  floor := Float.floor
  isFinite := Float.isFinite

instance : Scalar Rat where
  decLt := inferInstance
  decLe := inferInstance
  ofInt n := n
  ofDecimal negative coefficient exponent :=
    let magnitude : Rat := coefficient * (10 : Rat) ^ exponent
    if negative then -magnitude else magnitude
  floor x := x.floor
  isFinite _ := true

end Loadout
