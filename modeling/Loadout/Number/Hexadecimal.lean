/-!
# Hexadecimal numerals

Numbers in base sixteen, with digits of either case.

## Main definitions

* `Hexadecimal.digit?`: the value of a digit
* `Hexadecimal.read?`: the number that digits spell
-/

namespace Loadout.Hexadecimal

/-- The value of a hexadecimal digit. -/
def digit? (c : Char) : Option Nat :=
  let n := c.toNat
  if 48 ≤ n && n ≤ 57 then some (n - 48)
  else if 97 ≤ n && n ≤ 102 then some (n - 87)
  else if 65 ≤ n && n ≤ 70 then some (n - 55)
  else none

/-- The number that hexadecimal digits spell, of which there must be one. -/
def read? (cs : List Char) : Option Nat :=
  if cs.isEmpty then none
  else cs.foldlM (fun n c => (digit? c).map (16 * n + ·)) 0

end Loadout.Hexadecimal
