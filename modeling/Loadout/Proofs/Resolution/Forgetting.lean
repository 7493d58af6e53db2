import Loadout.Proofs.Resolution.Calls
import Loadout.Proofs.Resolution.Declared

/-!
# Keeping and forgetting answers

A kept answer is given for its key whatever store or situation is put in place, until it is
forgotten: by invalidating its stat or by invalidating everything. A resolver that has forgotten
every answer has nothing left of what it was asked before.

## Main definitions

* `Resolver.Call.Forgets`: a call after which the answer to a key need not be kept
* `Resolver.Repeats`: a resolver gives a kept answer

## Main results

* `Resolver.AtRest.kept_callAll`: what is kept stays until it is forgotten
* `Resolver.AtRest.repeats`: what is kept is given
* `Resolver.invalidateAll_renews`: both, and a resolver that has forgotten everything is as new
-/

namespace Loadout

variable {ν : Type}

namespace Resolver

/-- A call forgets the answer to a key. -/
def Call.Forgets (key : ResolverKey) : Call ν → Prop
  | .invalidate stat => stat = key.stat
  | .invalidateAll => True
  | .ask _ | .cached _ | .ground | .withDefaults _ | .replaceStore _ | .setCondition _ _
  | .setStat _ _ => False

/-- A resolver at rest that has forgotten every answer is a new one. -/
theorem AtRest.invalidateAll_eq {r : Resolver ν} (h : r.AtRest) :
    r.invalidateAll = ofStore r.ground.store r.ground.defaults := by
  unfold Resolver.invalidateAll ofStore
  rw [h.stack, h.floor]
  rfl

theorem getElem?_cache_invalidate {r : Resolver ν} {key : ResolverKey} {stat : String}
    (h : stat ≠ key.stat) : (r.invalidate stat).cache[key]? = r.cache[key]? := by
  have hkeep : (key.stat != stat) = true := bne_iff_ne.mpr h.symm
  rw [invalidate, Std.HashMap.getElem?_filter', hkeep]
  cases r.cache[key]? <;> rfl

variable [Scalar ν]

/-- A resolver gives a kept answer: by itself, when the stat is asked for under flags that make up
the key, and whenever the key is met with in the course of another resolution. -/
structure Repeats (r : Resolver ν) (key : ResolverKey) (answer : Resolved ν) : Prop where
  cached : r.cached? key = some answer
  resolve : ∀ stat flags keywords, r.ground.keyOf stat flags keywords = key →
    r.resolve stat flags keywords = (answer, r)
  value : ∀ stat, r.ground.defaultKey stat = key → r.value stat = (answer.value, r)
  several : ∀ (stats : List String) (i : Nat) (stat : String), stats[i]? = some stat →
    r.ground.defaultKey stat = key → (r.resolveAll stats).1[i]? = some answer
  within : ∀ call, ∀ top ∈ r.activations call, ∀ frames a, top.Reaches frames a → a.key = key →
    a.run = some (answer, a.resolver)

end Resolver

variable [Scalar ν]

theorem Activation.Reaches.kept {g : Ground ν} {top a : Activation ν}
    {frames : List (Activation ν)} (htop : top.Proper g []) (h : top.Reaches frames a)
    {key : ResolverKey} {answer : Resolved ν} (hkept : top.resolver.cache[key]? = some answer) :
    a.resolver.cache[key]? = some answer := by
  induction h with
  | top => exact hkept
  | nested h hmakes ih => exact ((h.proper htop).continues_makes hmakes).kept key answer ih

namespace Resolver

variable {r : Resolver ν} {key : ResolverKey} {answer : Resolved ν}

theorem AtRest.kept_call (h : r.AtRest) {call : Call ν} (hcall : ¬ call.Forgets key)
    (hkept : r.cache[key]? = some answer) : (r.call call).2.cache[key]? = some answer := by
  cases call with
  | ask query => exact (h.continues_ask query).kept key answer hkept
  | cached key => exact hkept
  | ground => exact hkept
  | withDefaults defaults => exact hkept
  | replaceStore store => exact hkept
  | setCondition name active => exact hkept
  | setStat stat value => exact hkept
  | invalidate stat => exact (getElem?_cache_invalidate hcall).trans hkept
  | invalidateAll => exact absurd trivial hcall

/-- A kept answer stays as long as no call forgets it. -/
theorem AtRest.kept_callAll (h : r.AtRest) {calls : List (Call ν)}
    (hcalls : ∀ call ∈ calls, ¬ call.Forgets key) (hkept : r.cache[key]? = some answer) :
    (r.callAll calls).2.cache[key]? = some answer := by
  induction calls generalizing r with
  | nil => exact hkept
  | cons first rest ih =>
    rw [List.forall_mem_cons] at hcalls
    exact ih (h.call first) hcalls.2 (h.kept_call hcalls.1 hkept)

/-- A kept answer is given by a resolver in any state. -/
theorem resolve_of_kept (hkept : r.cache[key]? = some answer) (stat : String)
    (flags : Option DamageFlags) (keywords : Option KeywordFlags)
    (hkey : r.ground.keyOf stat flags keywords = key) :
    r.resolve stat flags keywords = (answer, r) := by
  have hvisit : visit? r.budget r (r.ground.keyOf stat flags keywords) = some (answer, r) := by
    rw [hkey]
    exact visit?_of_kept hkept r.budget
  exact congrArg (Option.getD · _) hvisit

/-- A kept answer is given whenever its key comes up. -/
theorem AtRest.repeats (h : r.AtRest) (hkept : r.cache[key]? = some answer) :
    r.Repeats key answer where
  cached := hkept
  resolve stat flags keywords hkey := resolve_of_kept hkept stat flags keywords hkey
  value stat hkey := by
    rw [value, resolve_of_kept hkept stat none none hkey]
  several stats i stat hstat hkey := by
    induction stats generalizing r i with
    | nil => exact absurd hstat (Option.some_ne_none stat).symm
    | cons first rest ih =>
      cases i with
      | zero =>
        obtain rfl := Option.some.inj hstat
        have hfirst := resolve_of_kept hkept first none none hkey
        rw [resolveAll, hfirst]
        rfl
      | succ i =>
        have hcontinues := h.continues_resolve first none none
        refine ih hcontinues.atRest (hcontinues.kept key answer hkept) i hstat ?_
        rw [hcontinues.ready.ground]
        exact hkey
  within call top htop frames a hreaches hkey := by
    obtain ⟨hproper, hcontinues⟩ := h.begins htop
    have hkept' := hreaches.kept hproper (hcontinues.kept key answer hkept)
    rw [← hkey] at hkept'
    exact visit?_of_kept hkept' a.bound

/-- Whatever a resolver was called for, once it has forgotten everything, all further calls are
answered as by a new resolver of the store and the default situation that its owner has put in
place. And what it keeps it gives, whatever is put in place, until a call forgets it. -/
theorem invalidateAll_renews (store : Store ν) (defaults : Context ν)
    (earlier : List (Call ν)) :
    let r := ((ofStore store defaults).callAll earlier).2
    let g := earlier.foldl Ground.after ⟨store, defaults⟩
    (∀ later, r.invalidateAll.callAll later = (ofStore g.store g.defaults).callAll later) ∧
      ∀ key answer, r.cached? key = some answer →
        ∀ between, (∀ call ∈ between, ¬ call.Forgets key) →
          (r.callAll between).2.Repeats key answer := by
  intro r g
  have hrest := atRest_ofStore store defaults
  have hafter : r.AtRest := hrest.callAll earlier
  have hground : r.ground = g := hrest.ground_callAll earlier
  refine ⟨fun later => ?_, fun key answer hkept between hbetween => ?_⟩
  · rw [hafter.invalidateAll_eq, hground]
  · exact (hafter.callAll between).repeats (hafter.kept_callAll hbetween hkept)

/-- The strength of the example is kept, and given again after its store was taken away, its value
was pinned and the life was forgotten. -/
theorem invalidateAll_renews_lifeScaling :
    let r : Resolver Rat :=
      ((ofStore Ground.lifeScaling.store .empty).callAll [.ask (.value "Strength")]).2
    let key : ResolverKey := ⟨"Strength", .empty, .empty⟩
    let between : List (Call Rat) :=
      [.replaceStore .empty, .setStat "Strength" 7, .invalidate "Life"]
    ∃ answer, r.cached? key = some answer ∧ (r.callAll between).2.Repeats key answer := by
  intro r key between
  have hacyclic := Ground.acyclic_lifeScaling "Strength"
  have hready (region : String → Prop) :
      (ofStore Ground.lifeScaling.store .empty).Ready Ground.lifeScaling region [] :=
    ready_ofStore _ _ region
  have hclosed := Ground.closed_depends Ground.lifeScaling "Strength"
  have hresolve := (hready Nowhere).resolve hclosed "Strength" none none
  obtain ⟨-, hanswer⟩ :=
    hresolve.right (harmless_of_undisturbed hacyclic.undisturbed _) (hready _)
  have hkept : r.cached? key =
      some ((ofStore Ground.lifeScaling.store .empty).resolve "Strength").1 :=
    (hanswer .refl).2 (hacyclic.not_meets_self .refl)
  have hbetween : ∀ call ∈ between, ¬ call.Forgets key := by
    simp only [between, List.forall_mem_cons, List.not_mem_nil, false_imp_iff, implies_true,
      Call.Forgets, key]
    decide
  have hrenews := invalidateAll_renews Ground.lifeScaling.store .empty [.ask (.value "Strength")]
  exact ⟨_, hkept, hrenews.2 key _ hkept between hbetween⟩

end Resolver

end Loadout
