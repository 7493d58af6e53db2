import Loadout.Attribute
import Loadout.Store

/-!
# Resolved stats and their breakdown

A resolved stat is gathered from what applies to it, one contribution after the other: each is
listed, and the total of its kind grows. Bases come first, then increases, what attributes
grant, and the "more" factors, and the value is the product of the totals. An override stands
alone and is the value.

## Main definitions

* `Contribution`: one labelled part of a resolved stat
* `Resolved`: a stat's value, its totals and its contributions
* `Resolved.add`, `Resolved.addBonus`: one contribution more
* `Resolved.combined`, `Resolved.overridden?`: a stat without an override and one with an override
-/

namespace Loadout

/-- One labelled part of a resolved stat. -/
structure Contribution (ν : Type) where
  label : String
  kind : Kind
  value : ν
  deriving BEq

/-- A stat's value, its totals and its contributions in the order in which they were found. -/
structure Resolved (ν : Type) where
  stat : String
  value : ν
  base : ν
  increased : ν
  more : ν
  override : Option ν
  contributions : List (Contribution ν)
  deriving BEq

namespace Resolved

variable {ν : Type}

/-- The contributions of one kind. -/
def ofKind (r : Resolved ν) (kind : Kind) : List (Contribution ν) :=
  r.contributions.filter fun c => c.kind == kind

/-- A stat with one more contribution on its list. The totals stay. -/
def listing (r : Resolved ν) (c : Contribution ν) : Resolved ν :=
  { r with contributions := r.contributions ++ [c] }

variable [Scalar ν]

/-- A stat without contributions, which is zero. -/
def nothing (stat : String) : Resolved ν :=
  { stat
    value := Scalar.zero
    base := Scalar.zero
    increased := Scalar.zero
    more := Scalar.one
    override := none
    contributions := [] }

/-- A stat with one more contribution, which is listed and counts towards the total of its kind. -/
def add (r : Resolved ν) (c : Contribution ν) : Resolved ν :=
  let r := r.listing c
  match c.kind with
  | .base => { r with base := r.base + c.value }
  | .increased => { r with increased := r.increased + c.value }
  | .more => { r with more := r.more * (Scalar.one + c.value) }
  | .override | .flag | .list => r

/-- A stat with modifiers of one kind that apply, each in turn under the label of its origin. -/
def addEach (r : Resolved ν) (kind : Kind) (matching : List (Modifier ν × ν)) : Resolved ν :=
  matching.foldl (fun r entry => r.add ⟨entry.1.origin.text, kind, entry.2⟩) r

/-- A stat with what an attribute of some points grants to it. A bonus of zero is left out, and one
that is no increase goes to the base. -/
def addBonus (r : Resolved ν) (rule : AttributeRule ν) (points : ν) : Resolved ν :=
  let bonus := rule.bonus points
  if bonus == Scalar.zero then
    r
  else
    let r := r.listing ⟨rule.source, rule.kind, bonus⟩
    match rule.kind with
    | .increased => { r with increased := r.increased + bonus }
    | _ => { r with base := r.base + bonus }

/-- A stat without an override, in a situation where every stat that its conditions read is known,
with the value of the attribute of each rule that feeds it. -/
def combined (store : Store ν) (stat : String) (ctx : Context ν)
    (attributes : List (AttributeRule ν × ν)) : Resolved ν :=
  let r := (nothing stat).addEach .base (store.matching .base stat ctx)
  let r := r.addEach .increased (store.matching .increased stat ctx)
  let r := attributes.foldl (fun r entry => r.addBonus entry.1 entry.2) r
  let r := r.addEach .more (store.matching .more stat ctx)
  { r with value := r.base * (Scalar.one + r.increased) * r.more }

/-- A stat whose value an override decides. -/
def overridden (stat label : String) (value : ν) : Resolved ν :=
  { (nothing stat).listing ⟨label, .override, value⟩ with
    override := some value
    value }

/-- The override that decides a stat, if one applies: the last. -/
def overridden? (store : Store ν) (stat : String) (ctx : Context ν) : Option (Resolved ν) :=
  (store.matching .override stat ctx).getLast?.map fun entry =>
    overridden stat entry.1.origin.text entry.2

end Resolved

end Loadout
