import Loadout.Build
import Loadout.Line.Grammar

/-!
# Modifiers of skill gems

Every enabled gem of an enabled group is listed under its role, labelled with the
group if that has a label, and adds the modifiers of its lines. Support gems are told
from skills by their names.

## Main definitions

* `Gem.isSupport`: whether a name is that of a support gem
* `Layer.gem`: one gem
* `Layer.skills`: the whole layer
-/

namespace Loadout

/-- The names of support gems without the usual ending. -/
def Gem.plainSupports : List String :=
  ["Empower", "Enlighten", "Enhance", "Awaken"]

/-- Whether a name is that of a support gem: it ends in the word "support", or it is one of a few
other names. Case does not matter, for the other names in Latin letters only. -/
def Gem.isSupport (name : String) : Bool :=
  let trimmed := Text.trim name.toList
  let plain (s : String) : List Char := s.toList.map Char.toLower
  " support".toList.isSuffixOf (Text.lowercase trimmed) ||
    Gem.plainSupports.any fun other => plain other == trimmed.map Char.toLower

namespace Layer

variable {ν : Type} [Scalar ν]

/-- The modifiers of an enabled gem in a group of a label. -/
def gem (g : Grammar ν) (label : String) (gem : Gem) : List (Modifier ν) :=
  let origin : Origin := ⟨.skill, some gem.name⟩
  let role := if Gem.isSupport gem.name then "SupportGem" else "ActiveSkill"
  let listed : Modifier ν := .entry role gem.name origin
  { listed with tag := if label = "" then none else some (.label label) } ::
    g.modifiersOf gem.stats { origin }

/-- The modifiers of all skill groups of a build. -/
def skills (g : Grammar ν) (groups : List SkillGroup) : List (Modifier ν) :=
  (groups.filter (·.enabled)).flatMap fun group =>
    (group.gems.filter (·.enabled)).flatMap (Layer.gem g group.label)

end Layer

end Loadout
