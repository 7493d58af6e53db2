import Loadout.Character.Blank
import Loadout.Character.Folding
import Loadout.Character.Greek
import Loadout.Character.Word

/-!
# Sets of characters in patterns

The sets that a pattern can name: single characters, ranges, classes with a name, and
the Boolean combinations of these. A set may be taken up to case: it then holds a
character when it holds some character that is the same up to case.

## Main definitions

* `CharClass`: the classes with a name
* `CharSet`: the sets
* `CharSet.contains`: membership
-/

namespace Loadout

/-- The character classes with a name. -/
inductive CharClass where
  | digit
  | blank
  | word
  | letter
  | number
  | greek
  deriving DecidableEq, Repr

/-- Membership in a class with a name. -/
def CharClass.contains : CharClass → Char → Bool
  | digit, c => Character.isDecimalDigit c
  | blank, c => Character.isBlank c
  | word, c => Character.isWord c
  | letter, c => Character.isAlphabetic c
  | number, c => Character.isNumeric c
  | greek, c => Character.isGreek c

/-- A set of characters. -/
inductive CharSet where
  | none
  | one (c : Char)
  | range (low high : Char)
  | named (k : CharClass)
  | compl (s : CharSet)
  | union (s t : CharSet)
  | inter (s t : CharSet)
  | diff (s t : CharSet)
  | symmDiff (s t : CharSet)
  /-- The set taken up to case. -/
  | caseless (s : CharSet)
  deriving DecidableEq, Repr

namespace CharSet

/-- Membership of a character. -/
def contains : CharSet → Char → Bool
  | none, _ => false
  | one d, c => c == d
  | range low high, c => low.toNat ≤ c.toNat && c.toNat ≤ high.toNat
  | named k, c => k.contains c
  | compl s, c => !s.contains c
  | union s t, c => s.contains c || t.contains c
  | inter s t, c => s.contains c && t.contains c
  | diff s t, c => s.contains c && !t.contains c
  | symmDiff s t, c => s.contains c != t.contains c
  | caseless s, c => (Character.variants c).any s.contains

/-- The characters of a text. -/
def ofText (text : String) : CharSet :=
  text.toList.foldl (fun s c => s.union (one c)) none

end CharSet

end Loadout
