import Loadout.Build
import Loadout.Line.Grammar

/-!
# Modifiers of worn items

Each worn item is a layer of its own. Lines that a grammar marks as local belong to the
slot in which the item is worn and affect no query about another slot.

## Main definitions

* `Layer.item`: the modifiers of the item in a slot
-/

namespace Loadout.Layer

variable {ν : Type} [Scalar ν]

/-- The modifiers of the item in a slot. -/
def item (g : Grammar ν) (slot : Slot) (worn : Item) : List (Modifier ν) :=
  g.modifiersOf worn.lines { origin := ⟨.item, some worn.id⟩, slot := some slot.name }

end Loadout.Layer
