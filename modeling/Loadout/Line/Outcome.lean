import Loadout.Modifier.Basic

/-!
# What reading a line comes to

A line is not understood, or recognised without modifiers, or it produces modifiers.
In the last case warnings tell which of its words had no meaning; without a warning the
line is fully supported.

## Main definitions

* `Outcome`: the three cases
* `Outcome.support`: how completely a line was understood
* `LineContext`: where a line stands
* `Outcome.stamp`: the modifiers attributed to that place
-/

namespace Loadout

/-- Where a line stands. -/
structure LineContext where
  origin : Origin := .custom
  /-- The item slot, for modifiers that belong to it. -/
  slot : Option String := none
  deriving DecidableEq

/-- How completely a line was understood. -/
inductive Support where
  | full
  | partly
  | displayOnly
  | unsupported
  deriving DecidableEq, Repr

namespace Support

/-- The name under which a level of support is written. -/
def name : Support → String
  | full => "full"
  | partly => "partial"
  | displayOnly => "display_only"
  | unsupported => "unsupported"

/-- Every level. -/
def all : List Support :=
  [full, partly, displayOnly, unsupported]

/-- The level of a name. -/
def ofName? (s : String) : Option Support :=
  all.find? fun support => support.name == s

end Support

/-- What reading a line comes to. -/
inductive Outcome (ν : Type) where
  /-- Not understood, for a reason. -/
  | unsupported (reason : String)
  /-- Recognised, without modifiers. -/
  | displayOnly
  /-- Modifiers, with warnings about what had no meaning. -/
  | produced (modifiers : List (Modifier ν)) (warnings : List String)
  deriving BEq

namespace Outcome

variable {ν : Type}

/-- Whether the line was recognised. -/
def success : Outcome ν → Bool
  | unsupported _ => false
  | _ => true

/-- How completely the line was understood. -/
def support : Outcome ν → Support
  | unsupported _ => .unsupported
  | displayOnly => .displayOnly
  | produced _ warnings => if warnings.isEmpty then .full else .partly

/-- The modifiers of the line. -/
def modifiers : Outcome ν → List (Modifier ν)
  | produced ms _ => ms
  | _ => []

/-- What had no meaning. -/
def warnings : Outcome ν → List String
  | produced _ ws => ws
  | _ => []

/-- Why the line was not understood. -/
def reason : Outcome ν → Option String
  | unsupported r => some r
  | _ => none

/-- The outcome with a function applied to each modifier. -/
def mapModifiers (f : Modifier ν → Modifier ν) : Outcome ν → Outcome ν
  | produced ms ws => produced (ms.map f) ws
  | o => o

/-- A modifier attributed to the place of its line. A local one also belongs to the slot. -/
def stampModifier (ctx : LineContext) (isLocal : Bool) (m : Modifier ν) : Modifier ν :=
  { m with
    origin := ctx.origin
    tag := match isLocal, ctx.slot with
      | true, some slot => some (.slot slot)
      | _, _ => m.tag }

/-- The outcome with its modifiers attributed to the place of the line. -/
def stamp (o : Outcome ν) (ctx : LineContext) (isLocal : Bool) : Outcome ν :=
  o.mapModifiers (stampModifier ctx isLocal)

end Outcome

end Loadout
