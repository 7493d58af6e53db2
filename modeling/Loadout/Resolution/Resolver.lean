import Std.Data.HashMap
import Loadout.Resolution.Breakdown

/-!
# Resolving stats that read each other

A condition may read another stat, and attributes feed other stats, so resolving a
stat resolves others first. A resolver keeps every finished answer until it is told to
forget it. Stats that are being resolved stand on a stack. A stat met again on the
stack counts as zero, and `floor` remembers the shallowest depth at which that
happened: an answer found at that depth or deeper rests on such a zero and is not
kept, so that the answer for a stat in a cycle does not depend on which was asked
first.

An activation that is neither kept nor on the stack pushes a key. All keys above
the lowest have the default flags and name a stat that a condition or an attribute rule
mentions, so a budget of one more than the number of mentions is never used up.

## Main definitions

* `Resolver`: a store, the default situation, the kept answers and the stack
* `Resolver.visit?`: one activation, within a budget of nested ones
* `Resolver.resolve`, `Resolver.value`, `Resolver.resolveAll`
* `Resolver.invalidate`, `Resolver.invalidateAll`: forgetting answers
-/

namespace Loadout

/-- What an answer is kept under. -/
structure ResolverKey where
  stat : String
  flags : DamageFlags
  keywords : KeywordFlags
  deriving DecidableEq, Hashable

/-- Resolves stats against one store. -/
structure Resolver (ν : Type) where
  store : Store ν
  /-- The situation that a call's flags are put into. -/
  defaults : Context ν
  cache : Std.HashMap ResolverKey (Resolved ν)
  /-- The keys being resolved, innermost first. -/
  stack : List ResolverKey
  /-- The shallowest depth whose key was answered with zero. -/
  floor : Option Nat

namespace Resolver

variable {ν : Type}

/-- A resolver that has answered nothing yet. -/
def ofStore (store : Store ν) (defaults : Context ν := .empty) : Resolver ν :=
  { store, defaults, cache := ∅, stack := [], floor := none }

/-- The depth of a key on the stack, counted from the outermost. -/
def depth? (r : Resolver ν) (key : ResolverKey) : Option Nat :=
  (r.stack.reverse).findIdx? (· == key)

/-- The stats that conditions on a stat's modifiers read and that are not known, each once. -/
def unknowns (store : Store ν) (stat : String) (ctx : Context ν) : List String :=
  (store.on stat).foldl (fun found m =>
    match m.condition.bind Condition.stat? with
    | some dep => if ctx.stats.contains dep || found.contains dep then found else found ++ [dep]
    | none => found) []

/-- The key of a stat under the default flags. -/
def defaultKey (r : Resolver ν) (stat : String) : ResolverKey :=
  ⟨stat, r.defaults.flags, r.defaults.keywords⟩

/-- The situation of a key before the stats it depends on are known. -/
def situation (r : Resolver ν) (key : ResolverKey) : Context ν :=
  { r.defaults with flags := key.flags, keywords := key.keywords }

/-- Marks the depth of a key that was met again. -/
def meetAgain (r : Resolver ν) (depth : Nat) : Resolver ν :=
  { r with floor := some (match r.floor with | some f => min f depth | none => depth) }

/-- Takes the innermost key off the stack, and keeps its answer unless it rests on a zero. -/
def finish (r : Resolver ν) (key : ResolverKey) (answer : Resolved ν) : Resolver ν :=
  let r := { r with stack := r.stack.drop 1 }
  let depth := r.stack.length
  match r.floor with
  | some f =>
    if f = depth then { r with floor := none }
    else if f < depth then r
    else { r with cache := r.cache.insert key answer }
  | none => { r with cache := r.cache.insert key answer }

variable [Scalar ν]

/-- The values of several stats, resolved one after the other. -/
def gather (visit : Resolver ν → ResolverKey → Option (Resolved ν × Resolver ν)) :
    List String → Resolver ν → Option (List ν × Resolver ν)
  | [], r => some ([], r)
  | stat :: rest, r => do
    let (answer, r) ← visit r (r.defaultKey stat)
    let (values, r) ← gather visit rest r
    return (answer.value :: values, r)

/-- What a key resolves to, given how to resolve others. -/
def compute (visit : Resolver ν → ResolverKey → Option (Resolved ν × Resolver ν))
    (r : Resolver ν) (key : ResolverKey) : Option (Resolved ν × Resolver ν) := do
  let store := r.store
  let ctx := r.situation key
  let deps := unknowns store key.stat ctx
  let (values, r) ← gather visit deps r
  let ctx := (deps.zip values).foldl (fun ctx entry => ctx.setStat entry.1 entry.2) ctx
  match Resolved.overridden? store key.stat ctx with
  | some answer => return (answer, r)
  | none =>
    let rules := (AttributeRule.feeding key.stat).filter fun rule => rule.flags.appliesTo key.flags
    let (attributes, r) ← gather visit (rules.map (·.source)) r
    return (Resolved.combined store key.stat ctx (rules.zip attributes), r)

/-- One activation: a kept answer, zero for a key on the stack, or a computation in which at most
`budget` activations are nested. -/
def visit? : Nat → Resolver ν → ResolverKey → Option (Resolved ν × Resolver ν)
  | budget, r, key =>
    match r.cache[key]? with
    | some answer => some (answer, r)
    | none =>
      match r.depth? key with
      | some depth => some (.nothing key.stat, r.meetAgain depth)
      | none =>
        match budget with
        | 0 => none
        | budget + 1 => do
          let (answer, r) ← compute (visit? budget) { r with stack := key :: r.stack } key
          return (answer, r.finish key answer)

/-- A budget that no call uses up. -/
def budget (r : Resolver ν) : Nat :=
  1 + r.store.size + coreAttributes.length

/-- Resolves a stat. Flags and keywords take the place of the default ones for this call. -/
def resolve (r : Resolver ν) (stat : String) (flags : Option DamageFlags := none)
    (keywords : Option KeywordFlags := none) : Resolved ν × Resolver ν :=
  let key := ⟨stat, flags.getD r.defaults.flags, keywords.getD r.defaults.keywords⟩
  (visit? r.budget r key).getD (.nothing stat, r)

/-- The value of a stat under the default flags. -/
def value (r : Resolver ν) (stat : String) : ν × Resolver ν :=
  let (answer, r) := r.resolve stat
  (answer.value, r)

/-- Resolves several stats one after the other under the default flags. -/
def resolveAll (r : Resolver ν) : List String → List (Resolved ν) × Resolver ν
  | [] => ([], r)
  | stat :: rest =>
    let (answer, r) := r.resolve stat
    let (answers, r) := r.resolveAll rest
    (answer :: answers, r)

omit [Scalar ν]

/-! ### What the owner of a resolver may change -/

/-- The kept answer for a key. -/
def cached? (r : Resolver ν) (key : ResolverKey) : Option (Resolved ν) :=
  r.cache[key]?

/-- Puts another default situation in place. Kept answers stay. -/
def withDefaults (r : Resolver ν) (defaults : Context ν) : Resolver ν :=
  { r with defaults }

/-- Puts another store in place. Kept answers stay. -/
def replaceStore (r : Resolver ν) (store : Store ν) : Resolver ν :=
  { r with store }

/-- Says anew whether a condition holds by default. Kept answers stay. -/
def setCondition (r : Resolver ν) (name : String) (active : Bool) : Resolver ν :=
  { r with defaults := r.defaults.setCondition name active }

/-- Pins a stat's value by default. Kept answers stay. -/
def setStat (r : Resolver ν) (stat : String) (value : ν) : Resolver ν :=
  { r with defaults := r.defaults.setStat stat value }

/-- Forgets the answers for a stat, whatever the flags. -/
def invalidate (r : Resolver ν) (stat : String) : Resolver ν :=
  { r with cache := r.cache.filter fun key _ => key.stat != stat }

/-- Forgets every answer. -/
def invalidateAll (r : Resolver ν) : Resolver ν :=
  { r with cache := ∅ }

end Resolver

end Loadout
