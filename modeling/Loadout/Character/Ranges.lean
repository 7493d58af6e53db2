/-!
# Sets of characters given by ranges

A set of characters is kept as the list of its maximal runs of code points, in
ascending order. Membership is a scan of that list. The character classes of
this library answer ASCII by a direct test and every other character by such a
list, so that a fact about ASCII text never unfolds a long list.

## Main definitions

* `Ranges`: inclusive runs of code points
* `Ranges.contains`: membership of a character
-/

namespace Loadout.Character

/-- A set of characters as inclusive runs of code points, in ascending order. -/
abbrev Ranges := List (Nat × Nat)

/-- Whether the code point of `c` lies in one of the runs. -/
def Ranges.contains (runs : Ranges) (c : Char) : Bool :=
  runs.any fun run => run.1 ≤ c.toNat && c.toNat ≤ run.2

theorem Ranges.contains_iff {runs : Ranges} {c : Char} :
    runs.contains c = true ↔ ∃ run ∈ runs, run.1 ≤ c.toNat ∧ c.toNat ≤ run.2 := by
  simp [Ranges.contains]

end Loadout.Character
