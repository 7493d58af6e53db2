import Loadout.Character.Ranges

/-!
# Blank characters

The characters that separate words: those with the Unicode property
`White_Space`. The zero-width space and the byte order mark are not among them.

## Main definitions

* `isBlank`: membership
-/

namespace Loadout.Character

/-- The runs of blank characters, ASCII included. -/
def blanks : Ranges :=
  [(0x9, 0xD), (0x20, 0x20), (0x85, 0x85), (0xA0, 0xA0), (0x1680, 0x1680), (0x2000, 0x200A),
   (0x2028, 0x2029), (0x202F, 0x202F), (0x205F, 0x205F), (0x3000, 0x3000)]

/-- Whether `c` separates words. -/
def isBlank (c : Char) : Bool :=
  blanks.contains c

end Loadout.Character
