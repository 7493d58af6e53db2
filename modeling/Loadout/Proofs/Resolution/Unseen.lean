import Loadout.Proofs.Resolution.Activations

/-!
# Changes of a resolver that activations do not see

An activation sees the default situation, the kept answers, the modifiers of the stats that it
gets to, and where their keys lie on the stack. A change of the resolver that leaves this as it was
for a region of stats that is closed under reading is not seen: every activation for a stat of the
region gives the answer that it gave, and leaves the resolver that it left, changed.

The proof follows two runs at once. A request that one run makes the other makes too, on the
changed resolver, so an induction on the budget carries the relation through all nested
activations, whether or not the stats depend on each other in cycles.

## Main definitions

* `Resolver.Unseen`: a change that is not seen from a region of stats

## Main results

* `Resolver.Ready.compute_map`: a computation whose requests do not see a change does not see it
* `Resolver.Unseen.visit?_map`: an activation in the region does not see the change
-/

namespace Loadout

variable {ν : Type}

/-! ### The modifiers of a stat -/

section

variable {store store' : Store ν} {stat : String} (h : store'.on stat = store.on stat)
include h

theorem Resolver.unknowns_eq_of_on (ctx : Context ν) :
    unknowns store' stat ctx = unknowns store stat ctx := by
  rw [unknowns, h, unknowns]

variable [Scalar ν]

theorem Store.matching_eq_of_on (kind : Kind) (ctx : Context ν) :
    store'.matching kind stat ctx = store.matching kind stat ctx := by
  rw [matching, h, matching]

theorem Resolved.overridden?_eq_of_on (ctx : Context ν) :
    overridden? store' stat ctx = overridden? store stat ctx := by
  rw [overridden?, Store.matching_eq_of_on h, overridden?]

theorem Resolved.combined_eq_of_on (ctx : Context ν) (attributes : List (AttributeRule ν × ν)) :
    combined store' stat ctx attributes = combined store stat ctx attributes := by
  simp only [combined, Store.matching_eq_of_on h]

end

namespace Resolver

variable [Scalar ν] {g : Ground ν} {region : String → Prop} {stack : List ResolverKey}
  {r : Resolver ν} {key : ResolverKey} {stats : List String} {bound : Nat}

/-! ### One computation -/

namespace Ready

variable (change : Resolver ν → Resolver ν)
  (hdefaults : ∀ r : Resolver ν, (change r).defaults = r.defaults)
include hdefaults

/-- Stats that do not see a change are gathered alike. -/
private theorem gather_map (h : r.Ready g Nowhere stack)
    (hvisit : ∀ stat ∈ stats, ∀ r : Resolver ν, r.Ready g Nowhere stack →
      visit? bound (change r) (g.defaultKey stat) =
        (visit? bound r (g.defaultKey stat)).map fun result => (result.1, change result.2)) :
    gather (visit? bound) stats (change r) =
      (gather (visit? bound) stats r).map fun result => (result.1, change result.2) := by
  induction stats generalizing r with
  | nil => rfl
  | cons first rest ih =>
    have hkey : r.defaultKey first = g.defaultKey first := by rw [← h.ground]; rfl
    have hkey' : (change r).defaultKey first = g.defaultKey first := by
      rw [← hkey, Resolver.defaultKey, hdefaults, Resolver.defaultKey]
    simp only [gather, hkey, hkey']
    rw [hvisit first List.mem_cons_self r h]
    cases hfirst : visit? bound r (g.defaultKey first) with
    | none => rfl
    | some result =>
      have hrest := ih (h.continues_visit hfirst).ready
        fun stat hstat => hvisit stat (List.mem_cons_of_mem _ hstat)
      simp only [Option.map_some, Option.bind_eq_bind, Option.bind_some, hrest]
      cases gather (visit? bound) rest result.2 <;> rfl

/-- A key is computed alike when its stat has the same modifiers and no stat that it reads sees the
change. -/
theorem compute_map (h : r.Ready g Nowhere stack)
    (hon : (change r).store.on key.stat = r.store.on key.stat)
    (hvisit : ∀ stat, g.Reads key.stat stat → ∀ r : Resolver ν, r.Ready g Nowhere stack →
      visit? bound (change r) (g.defaultKey stat) =
        (visit? bound r (g.defaultKey stat)).map fun result => (result.1, change result.2)) :
    compute (visit? bound) (change r) key =
      (compute (visit? bound) r key).map fun result => (result.1, change result.2) := by
  have hunknowns : (change r).ground.unknowns key.stat = g.unknowns key.stat := by
    rw [← h.ground]
    exact (unknowns_eq_of_on hon _).trans (congrArg _ (hdefaults r))
  have hread (stat : String) (hstat : stat ∈ g.unknowns key.stat) : g.Reads key.stat stat :=
    .inl (g.mem_unknowns.mp hstat)
  have hsource (stat : String) (hstat : stat ∈ (g.rules key).map (·.source)) :
      g.Reads key.stat stat := by
    obtain ⟨rule, hrule, hsource⟩ := List.mem_map.mp hstat
    exact Ground.reads_of_mem_rules hrule hsource
  have hinformed (known : List ν) : (change r).informed key known = r.informed key known := by
    rw [informed, informed, hunknowns, h.ground, situation, hdefaults, situation]
  have hrules : (change r).ground.rules key = g.rules key := rfl
  rw [compute_eq_informed, compute_eq_informed, hunknowns, h.ground, hrules,
    h.gather_map change hdefaults fun stat hstat => hvisit stat (hread stat hstat)]
  cases hknown : gather (visit? bound) (g.unknowns key.stat) r with
  | none => rfl
  | some known =>
    simp only [Option.map_some, Option.bind_some, hinformed, Resolved.overridden?_eq_of_on hon,
      Resolved.combined_eq_of_on hon]
    cases Resolved.overridden? r.store key.stat (r.informed key known.1) with
    | some answer => rfl
    | none =>
      have hready : known.2.Ready g Nowhere stack :=
        (h.continues_gather (fun _ _ _ _ hready => hready.continues_visit) hknown).ready
      simp only [hready.gather_map change hdefaults fun stat hstat =>
        hvisit stat (hsource stat hstat), Option.map_map]
      rfl

end Ready

/-! ### Activations -/

/-- A change of resolvers for a ground that is not seen from a region of stats: nothing that an
activation for a stat of the region gets to is other than it was, and the change commutes with
putting a key on the stack, meeting one again and taking one off. -/
structure Unseen (g : Ground ν) (region : String → Prop) (change : Resolver ν → Resolver ν) :
    Prop where
  closed : g.Closed region
  defaults (r : Resolver ν) : (change r).defaults = r.defaults
  cache (r : Resolver ν) : (change r).cache = r.cache
  on {r : Resolver ν} (hground : r.ground = g) {stat : String} (hstat : region stat) :
    (change r).store.on stat = r.store.on stat
  mem_stack (r : Resolver ν) {key : ResolverKey} (hkey : region key.stat) :
    key ∈ (change r).stack ↔ key ∈ r.stack
  push (r : Resolver ν) (key : ResolverKey) :
    { change r with stack := key :: (change r).stack } =
      change { r with stack := key :: r.stack }
  meetAgain (r : Resolver ν) {key : ResolverKey} (hkey : region key.stat) :
    (change r).meetAgain (depthIn (change r).stack key) =
      change (r.meetAgain (depthIn r.stack key))
  finish {r : Resolver ν} {key : ResolverKey} {stack : List ResolverKey}
    (hstack : r.stack = key :: stack) (answer : Resolved ν) :
    (change r).finish key answer = change (r.finish key answer)

/-- An activation for a stat of the region does not see the change. -/
theorem Unseen.visit?_map {change : Resolver ν → Resolver ν} (hunseen : Unseen g region change)
    (h : r.Ready g Nowhere stack) (hregion : region key.stat) :
    visit? bound (change r) key =
      (visit? bound r key).map fun result => (result.1, change result.2) := by
  induction bound using Nat.strongRecOn generalizing r stack key with
  | ind bound ih =>
    cases hkept : r.cache[key]? with
    | some answer =>
      have hkept' : (change r).cache[key]? = some answer := by rwa [hunseen.cache]
      rw [visit?_of_kept hkept, visit?_of_kept hkept', Option.map_some]
    | none =>
      have hkept' : (change r).cache[key]? = none := by rwa [hunseen.cache]
      by_cases hkey : key ∈ r.stack
      · have hkey' : key ∈ (change r).stack := (hunseen.mem_stack r hregion).mpr hkey
        rw [visit?_of_mem hkept hkey, visit?_of_mem hkept' hkey', hunseen.meetAgain r hregion,
          Option.map_some]
      · have hkey' : key ∉ (change r).stack := mt (hunseen.mem_stack r hregion).mp hkey
        cases bound with
        | zero =>
          unfold visit?
          simp only [hkept, hkept', depth?_of_notMem hkey, depth?_of_notMem hkey', Option.map_none]
        | succ n =>
          have hpushed := h.push key
          have hcompute := hpushed.compute_map change hunseen.defaults
            (hunseen.on hpushed.ground hregion) fun stat hreads r' hr' =>
              ih n (Nat.lt_succ_self n) hr' (hunseen.closed key.stat stat hregion hreads)
          rw [visit?_of_notMem hkept hkey, visit?_of_notMem hkept' hkey', hunseen.push, hcompute]
          cases hcomputed : compute (visit? n) { r with stack := key :: r.stack } key with
          | none => rfl
          | some result =>
            have hstack : result.2.stack = key :: stack := (hpushed.continues_compute
              (fun _ _ _ _ hready => hready.continues_visit) hcomputed).ready.onStack
            simp only [Option.map_some, hunseen.finish hstack]

end Resolver

end Loadout
