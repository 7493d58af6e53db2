import Loadout.Proofs.Resolution.Activations

/-!
# The calls of a resolver

Besides asking for stats, the owner of a resolver may look at what is kept and at what it is
resolved against, put another store or default situation in place, say a condition or a value
anew, and forget answers. Between calls a resolver is at rest: its stack is empty and it carries no
mark. Which store and default situation it has is decided by the owner alone.

## Main definitions

* `Resolver.Call`, `Resolver.Reply`: what can be asked for, and what comes back
* `Resolver.call`, `Resolver.callAll`: a call, and calls in turn
* `Resolver.activations`: the resolutions that a call makes
* `Resolver.AtRest`: the state between calls
* `Ground.after`: what the owner has put in place

## Main results

* `Resolver.AtRest.callAll`: a resolver is at rest after any calls
* `Resolver.AtRest.ground_callAll`: what is resolved against is what the owner has put in place
* `Resolver.AtRest.begins`: how the resolutions of a call begin
-/

namespace Loadout

variable {ν : Type}

namespace Resolver

/-- What the owner of a resolver can ask for. -/
inductive Call (ν : Type) where
  | ask (query : Query)
  | cached (key : ResolverKey)
  | ground
  | withDefaults (defaults : Context ν)
  | replaceStore (store : Store ν)
  | setCondition (name : String) (active : Bool)
  | setStat (stat : String) (value : ν)
  | invalidate (stat : String)
  | invalidateAll

/-- What comes back. -/
inductive Reply (ν : Type) where
  | answer (answer : Answer ν)
  | cached (answer : Option (Resolved ν))
  | ground (ground : Ground ν)
  | done

end Resolver

/-- What is resolved against after a call. -/
def Ground.after (g : Ground ν) : Resolver.Call ν → Ground ν
  | .withDefaults defaults => { g with defaults }
  | .replaceStore store => { g with store }
  | .setCondition name active => { g with defaults := g.defaults.setCondition name active }
  | .setStat stat value => { g with defaults := g.defaults.setStat stat value }
  | .ask _ | .cached _ | .ground | .invalidate _ | .invalidateAll => g

namespace Resolver

/-- Between calls the stack is empty, and there is no mark. -/
structure AtRest (r : Resolver ν) : Prop where
  stack : r.stack = []
  floor : r.floor = none

theorem atRest_ofStore (store : Store ν) (defaults : Context ν) : (ofStore store defaults).AtRest :=
  ⟨rfl, rfl⟩

variable [Scalar ν]

/-- What comes back from a call, and the resolver afterwards. -/
def call (r : Resolver ν) : Call ν → Reply ν × Resolver ν
  | .ask query =>
    let (answer, r) := r.ask query
    (.answer answer, r)
  | .cached key => (.cached (r.cached? key), r)
  | .ground => (.ground r.ground, r)
  | .withDefaults defaults => (.done, r.withDefaults defaults)
  | .replaceStore store => (.done, r.replaceStore store)
  | .setCondition name active => (.done, r.setCondition name active)
  | .setStat stat value => (.done, r.setStat stat value)
  | .invalidate stat => (.done, r.invalidate stat)
  | .invalidateAll => (.done, r.invalidateAll)

/-- What comes back from calls in turn, and the resolver afterwards. -/
def callAll (r : Resolver ν) : List (Call ν) → List (Reply ν) × Resolver ν
  | [] => ([], r)
  | first :: rest =>
    let (reply, r) := r.call first
    let (replies, r) := r.callAll rest
    (reply :: replies, r)

/-- The resolutions of several stats in turn under the default flags. -/
def activationsInTurn (r : Resolver ν) : List String → List (Activation ν)
  | [] => []
  | stat :: rest => r.activation stat none none :: (r.resolve stat).2.activationsInTurn rest

/-- The resolutions that a call makes. -/
def activations (r : Resolver ν) : Call ν → List (Activation ν)
  | .ask (.stat name flags keywords) => [r.activation name flags keywords]
  | .ask (.value name) => [r.activation name none none]
  | .ask (.several names) => r.activationsInTurn names
  | .cached _ | .ground | .withDefaults _ | .replaceStore _ | .setCondition _ _ | .setStat _ _
  | .invalidate _ | .invalidateAll => []

variable {g : Ground ν} {r r' : Resolver ν}

theorem AtRest.ready (h : r.AtRest) : r.Ready r.ground Nowhere [] where
  ground := rfl
  onStack := h.stack
  floor depth hdepth := absurd (h.floor.symm.trans hdepth) (Option.some_ne_none depth).symm
  kept _ _ _ := False.elim

theorem Continues.atRest (h : r.Continues g [] r') : r'.AtRest :=
  ⟨h.ready.onStack, h.ready.floor_eq_none⟩

namespace AtRest

theorem proper (h : r.AtRest) (stat : String) (flags : Option DamageFlags)
    (keywords : Option KeywordFlags) :
    (r.activation stat flags keywords).Proper r.ground [] where
  ready := h.ready
  reached := .top _
  bound := rfl

/-- Resolving a stat on a resolver at rest comes to an end within the budget. -/
theorem run_activation (h : r.AtRest) (stat : String) (flags : Option DamageFlags)
    (keywords : Option KeywordFlags) :
    (r.activation stat flags keywords).run = some (r.resolve stat flags keywords) := by
  obtain ⟨answer, r', hrun, -⟩ := (h.proper stat flags keywords).runs
  have hvisit : visit? r.budget r (r.ground.keyOf stat flags keywords) = some (answer, r') := hrun
  rw [hrun]
  exact congrArg some (congrArg (Option.getD · _) hvisit).symm

theorem continues_resolve (h : r.AtRest) (stat : String) (flags : Option DamageFlags)
    (keywords : Option KeywordFlags) :
    r.Continues r.ground [] (r.resolve stat flags keywords).2 := by
  obtain ⟨answer, r', hrun, hcontinues⟩ := (h.proper stat flags keywords).runs
  obtain ⟨rfl, rfl⟩ :=
    Prod.mk.inj (Option.some.inj ((h.run_activation stat flags keywords).symm.trans hrun))
  exact hcontinues

theorem continues_resolveAll (h : r.AtRest) (stats : List String) :
    r.Continues r.ground [] (r.resolveAll stats).2 := by
  induction stats generalizing r with
  | nil => exact .refl h.ready
  | cons stat stats ih =>
    have hfirst := h.continues_resolve stat none none
    have hrest := ih hfirst.atRest
    rw [hfirst.ready.ground] at hrest
    exact hfirst.trans hrest

/-- A query leaves the kept answers as they were, and the resolver at rest. -/
theorem continues_ask (h : r.AtRest) (query : Query) :
    r.Continues r.ground [] (r.ask query).2 := by
  cases query with
  | stat name flags keywords => exact h.continues_resolve name flags keywords
  | value name => exact h.continues_resolve name none none
  | several names => exact h.continues_resolveAll names

/-- A resolver is at rest after a call. -/
theorem call (h : r.AtRest) (call : Call ν) : (r.call call).2.AtRest := by
  cases call with
  | ask query => exact (h.continues_ask query).atRest
  | cached key => exact h
  | ground => exact h
  | withDefaults defaults => exact ⟨h.stack, h.floor⟩
  | replaceStore store => exact ⟨h.stack, h.floor⟩
  | setCondition name active => exact ⟨h.stack, h.floor⟩
  | setStat stat value => exact ⟨h.stack, h.floor⟩
  | invalidate stat => exact ⟨h.stack, h.floor⟩
  | invalidateAll => exact ⟨h.stack, h.floor⟩

/-- A resolver is at rest after any calls. -/
theorem callAll (h : r.AtRest) (calls : List (Call ν)) : (r.callAll calls).2.AtRest := by
  induction calls generalizing r with
  | nil => exact h
  | cons first rest ih => exact ih (h.call first)

theorem ground_call (h : r.AtRest) (call : Call ν) :
    (r.call call).2.ground = r.ground.after call := by
  cases call with
  | ask query => exact (h.continues_ask query).ready.ground
  | cached key => rfl
  | ground => rfl
  | withDefaults defaults => rfl
  | replaceStore store => rfl
  | setCondition name active => rfl
  | setStat stat value => rfl
  | invalidate stat => rfl
  | invalidateAll => rfl

/-- What is resolved against is what the owner has put in place. -/
theorem ground_callAll (h : r.AtRest) (calls : List (Call ν)) :
    (r.callAll calls).2.ground = calls.foldl Ground.after r.ground := by
  induction calls generalizing r with
  | nil => rfl
  | cons first rest ih =>
    rw [List.foldl_cons, ← h.ground_call first]
    exact ih (h.call first)

/-- Every resolution that a call makes begins properly, with all that was kept before the call. -/
theorem begins (h : r.AtRest) {call : Call ν} {top : Activation ν}
    (htop : top ∈ r.activations call) :
    top.Proper r.ground [] ∧ r.Continues r.ground [] top.resolver := by
  have hinTurn (stats : List String) (r : Resolver ν) (h : r.AtRest)
      (htop : top ∈ r.activationsInTurn stats) :
      top.Proper r.ground [] ∧ r.Continues r.ground [] top.resolver := by
    induction stats generalizing r with
    | nil => exact absurd htop List.not_mem_nil
    | cons stat stats ih =>
      rcases List.mem_cons.mp htop with rfl | hrest
      · exact ⟨h.proper stat none none, .refl h.ready⟩
      · have hfirst := h.continues_resolve stat none none
        obtain ⟨hproper, hcontinues⟩ := ih _ hfirst.atRest hrest
        rw [hfirst.ready.ground] at hproper hcontinues
        exact ⟨hproper, hfirst.trans hcontinues⟩
  cases call with
  | ask query =>
    cases query with
    | stat name flags keywords =>
      rw [List.mem_singleton.mp htop]
      exact ⟨h.proper name flags keywords, .refl h.ready⟩
    | value name =>
      rw [List.mem_singleton.mp htop]
      exact ⟨h.proper name none none, .refl h.ready⟩
    | several names => exact hinTurn names r h htop
  | _ => exact absurd htop List.not_mem_nil

end AtRest

end Resolver

end Loadout
