import Loadout.Character.Digit
import Loadout.Number.Scalar

/-!
# Decimal numerals

A numeral is a sign, digits and an optional fraction. Numerals are read from ASCII
digits only: a digit of another script is a digit for the patterns that find
numerals and has no value when one is read. Any run of plus signs before the numeral
is dropped.

## Main definitions

* `Decimal`: sign, coefficient and power of ten
* `Decimal.read?`: the numeral that a text spells
* `Decimal.value`: the scalar it stands for
-/

namespace Loadout

/-- A decimal numeral: `±coefficient · 10 ^ exponent`. -/
structure Decimal where
  negative : Bool
  coefficient : Nat
  exponent : Int
  deriving DecidableEq, Repr

namespace Decimal

open Character

/-- The number that ASCII digits spell, in base ten. -/
def ofDigits (digits : List Char) : Nat :=
  digits.foldl (fun n c => 10 * n + (c.toNat - 48)) 0

/-- The numeral spelled by whole digits and fraction digits. -/
def ofParts (negative : Bool) (whole fraction : List Char) : Decimal :=
  ⟨negative, ofDigits (whole ++ fraction), -(fraction.length : Int)⟩

/-- Reads digits with an optional fraction, after the sign. -/
def readUnsigned? (negative : Bool) (cs : List Char) : Option Decimal :=
  let whole := cs.takeWhile isAsciiDigit
  match cs.dropWhile isAsciiDigit with
  | [] => if whole.isEmpty then none else some (ofParts negative whole [])
  | '.' :: fraction =>
    if fraction.all isAsciiDigit && !(whole.isEmpty && fraction.isEmpty) then
      some (ofParts negative whole fraction)
    else
      none
  | _ => none

/-- The numeral that a text spells, plus signs before it dropped. -/
def read? (cs : List Char) : Option Decimal :=
  match cs.dropWhile (· == '+') with
  | '-' :: rest => readUnsigned? true rest
  | rest => readUnsigned? false rest

/-- The scalar that a numeral stands for. -/
def value {ν : Type} [Scalar ν] (d : Decimal) : ν :=
  Scalar.ofDecimal d.negative d.coefficient d.exponent

end Decimal

/-- The number that a text spells, if it is a numeral. -/
def readNumber? {ν : Type} [Scalar ν] (cs : List Char) : Option ν :=
  (Decimal.read? cs).map Decimal.value

end Loadout
