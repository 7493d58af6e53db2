import Loadout.Text.Case

/-!
# Normal form of a line

Lines are compared in lower case, with their words one space apart and without the
periods that end a sentence. The periods go in one cut: a period that stands before
a blank before the final ones stays.

## Main definitions

* `normal`: the normal form of a line
-/

namespace Loadout.Text

/-- A text without the periods that end it, nor the blanks before them. -/
def dropPeriods (cs : List Char) : List Char :=
  trimEnd (cs.reverse.dropWhile (· == '.')).reverse

/-- The normal form of a line, as characters. -/
def normalChars (cs : List Char) : List Char :=
  dropPeriods (squeeze (lowercase cs))

/-- The normal form of a line: lower case, single spaces, no final periods. -/
def normal (text : String) : String :=
  String.ofList (normalChars text.toList)

/-- The nonblank lines of a block, without the blanks around them. -/
def nonblankLines (text : String) : List String :=
  (((pieces (· == '\n') text.toList).map trim).filter (· ≠ [])).map String.ofList

end Loadout.Text
