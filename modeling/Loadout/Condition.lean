import Loadout.Context
import Loadout.Number.Scalar

/-!
# Conditions on modifiers

A modifier may be subject to a condition: a named state, a bound on a stat, or a
count of a stat that scales it. A condition gives the factor by which the modifier
counts, or nothing when the modifier does not apply. A stat without a known value
counts as zero.

## Main definitions

* `Condition`: the three kinds
* `Condition.factor?`: what a condition gives in a situation
* `Condition.stat?`: the stat it reads
* `Condition.withNumber`: the condition with the number of its phrase filled in
-/

namespace Loadout

/-- What a modifier is subject to. -/
inductive Condition (ν : Type) where
  /-- A named state holds, or does not hold when `negated`. -/
  | state (name : String) (negated : Bool)
  /-- A stat reaches a bound, or stays below it unless `atLeast`. -/
  | threshold (stat : String) (bound : ν) (atLeast : Bool)
  /-- The modifier counts once for each full `per` of a stat, at most `limit` times. -/
  | multiplier (stat : String) (per : ν) (limit : Option ν)
  deriving BEq

namespace Condition

variable {ν : Type}

/-- The stat whose value the condition reads. -/
def stat? : Condition ν → Option String
  | state _ _ => none
  | threshold stat _ _ => some stat
  | multiplier stat _ _ => some stat

variable [Scalar ν]

/-- How often a multiplier counts at a stat's value. Without a positive step the value itself is
the count. -/
def times (count per : ν) (limit : Option ν) : ν :=
  let factor := if Scalar.zero < per then Scalar.floor (count / per) else count
  match limit with
  | some bound => Scalar.atMost factor bound
  | none => factor

/-- The factor by which a modifier counts, or nothing when it does not apply. -/
def factor? (c : Condition ν) (ctx : Context ν) : Option ν :=
  match c with
  | state name negated => if ctx.holds name != negated then some Scalar.one else none
  | threshold stat bound atLeast =>
    let value := (ctx.stat? stat).getD Scalar.zero
    if (if atLeast then bound ≤ value else value < bound) then some Scalar.one else none
  | multiplier stat per limit =>
    let factor := times ((ctx.stat? stat).getD Scalar.zero) per limit
    if Scalar.zero < factor then some factor else none

/-- The condition with the number of its phrase as its bound or its step. -/
def withNumber (c : Condition ν) : Option ν → Condition ν
  | none => c
  | some n =>
    match c with
    | state name negated => state name negated
    | threshold stat _ atLeast => threshold stat n atLeast
    | multiplier stat _ limit => multiplier stat n limit

end Condition

end Loadout
