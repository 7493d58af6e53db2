import Loadout.Build
import Loadout.Line.Grammar
import Loadout.Tree

/-!
# Modifiers of the passive tree

The passive layer holds the starting attributes of the class, the lines of every
allocated node and the lines of every jewel in an allocated socket, in this order.
Nodes and sockets come in order of identifier, whatever the order of allocation, so that
of two overrides the same one is always last. A mastery counts only through the
effect selected for it. What the tree does not know adds nothing.

## Main definitions

* `Layer.startingAttributes`: what a class starts with
* `Layer.node`: an allocated node
* `Layer.jewel`: the jewel in a socket
* `Layer.passives`: the whole layer
-/

namespace Loadout.Layer

variable {ν : Type}

/-- The starting attributes of a class, if the tree knows it. -/
def startingAttributes (tree : Tree ν) (className : String) : List (Modifier ν) :=
  match tree.class? className with
  | some start =>
    let origin : Origin := ⟨.characterClass, some className⟩
    [.number "Strength" .base start.strength origin,
      .number "Dexterity" .base start.dexterity origin,
      .number "Intelligence" .base start.intelligence origin]
  | none => []

/-- The origin of what a node grants. -/
def nodeOrigin (id : Nat) : Origin :=
  ⟨.passive, some (toString id)⟩

variable [Scalar ν]

/-- The modifiers of an allocated node, if the tree knows it: a mastery grants the lines of the
effect selected for it, another node its own lines and, for a keystone, a switch. -/
def node (g : Grammar ν) (tree : Tree ν) (masteries : Std.ExtTreeMap Nat Nat) (id : Nat) :
    List (Modifier ν) :=
  match tree.node? id with
  | none => []
  | some n =>
    let ctx : LineContext := { origin := nodeOrigin id }
    if n.isMastery then
      match masteries[id]?.bind fun effect => n.masteryEffects[effect]? with
      | some lines => g.modifiersOf lines ctx
      | none => []
    else
      g.modifiersOf n.stats ctx ++
        (if n.isKeystone then [.switch ("Keystone:" ++ n.name) (nodeOrigin id)] else [])

/-- The modifiers of the jewel in a socket. -/
def jewel (g : Grammar ν) (socket : Nat) (item : Item) : List (Modifier ν) :=
  g.modifiersOf item.lines { origin := ⟨.jewel, some (toString socket)⟩ }

/-- The modifiers of everything that a build has on the passive tree. -/
def passives (g : Grammar ν) (tree : Tree ν) (b : Build ν) : List (Modifier ν) :=
  startingAttributes tree b.className ++
    b.nodes.toList.flatMap (node g tree b.masteries) ++
    (b.jewels.toList.filter fun entry => b.nodes.contains entry.1).flatMap fun entry =>
      jewel g entry.1 entry.2

end Loadout.Layer
