import Loadout.Proofs.Resolution.Calls
import Loadout.Proofs.Resolution.Unseen

/-!
# Stats that do not depend on themselves

While a stat is resolved that does not depend on itself, its key lies at the bottom of the stack
and is never met. So the stats that it reads are answered as if it were not there: as a resolver
answers them that is asked for them in turn. This holds whatever cycles they are part of, and
whatever is kept on the way.

## Main definitions

* `Resolver.under`: one more key at the bottom of the stack
* `Resolver.informedFor`: the situation in which a stat is computed

## Main results

* `Resolver.Ready.visit?_under`: a key at the bottom that is not read changes no answer
* `Resolver.AtRest.resolve_eq`: what a stat comes to that does not depend on itself
-/

namespace Loadout

variable {ν : Type}

theorem depthIn_append_singleton {stack : List ResolverKey} {key bottom : ResolverKey}
    (h : key ≠ bottom) : depthIn (stack ++ [bottom]) key = depthIn stack key + 1 := by
  rw [depthIn, List.reverse_append, List.reverse_singleton, List.singleton_append,
    List.idxOf_cons_ne _ h.symm, depthIn]

namespace Resolver

/-- The resolver with one more key at the bottom of the stack. -/
def under (r : Resolver ν) (bottom : ResolverKey) : Resolver ν :=
  { r with stack := r.stack ++ [bottom], floor := r.floor.map (· + 1) }

theorem meetAgain_under (r : Resolver ν) (bottom : ResolverKey) (depth : Nat) :
    (r.under bottom).meetAgain (depth + 1) = (r.meetAgain depth).under bottom := by
  cases hfloor : r.floor with
  | none => simp only [meetAgain, under, hfloor, Option.map_none, Option.map_some]
  | some f =>
    simp only [meetAgain, under, hfloor, Option.map_some, Nat.add_min_add_right]

theorem finish_under {r : Resolver ν} {key : ResolverKey} {stack : List ResolverKey}
    (h : r.stack = key :: stack) (bottom : ResolverKey) (answer : Resolved ν) :
    (r.under bottom).finish key answer = (r.finish key answer).under bottom := by
  cases hfloor : r.floor with
  | none => simp only [finish, under, h, hfloor, Option.map_none, List.cons_append, List.drop_one,
      List.tail_cons]
  | some f =>
    simp only [finish, under, h, hfloor, Option.map_some, List.cons_append, List.drop_one,
      List.tail_cons, List.length_append, List.length_singleton, Nat.add_right_cancel_iff,
      Nat.add_lt_add_iff_right]
    split
    · rfl
    · split <;> rfl

variable [Scalar ν] {g : Ground ν} {stack : List ResolverKey} {r r' : Resolver ν}
  {key bottom : ResolverKey} {stats : List String} {bound : Nat}

/-- A key at the bottom of the stack is not seen from the stats that do not depend on its stat. -/
theorem unseen_under (g : Ground ν) (bottom : ResolverKey) :
    Unseen g (fun stat => ¬ Relation.ReflTransGen g.Reads stat bottom.stat)
      (·.under bottom) where
  closed _ _ hstat hreads hback := hstat (.head hreads hback)
  defaults _ := rfl
  cache _ := rfl
  on _ _ _ := rfl
  mem_stack r key hkey := by
    have hne : key ≠ bottom := fun hsame => hkey (hsame ▸ .refl)
    rw [under, List.mem_append, List.mem_singleton, or_iff_left hne]
  push _ _ := rfl
  meetAgain r key hkey := by
    have hne : key ≠ bottom := fun hsame => hkey (hsame ▸ .refl)
    have hdepth : depthIn (r.under bottom).stack key = depthIn r.stack key + 1 :=
      depthIn_append_singleton hne
    rw [hdepth, meetAgain_under]
  finish hstack answer := finish_under hstack bottom answer

/-- An activation on which a key at the bottom has no bearing, because the stat does not depend on
the stat of that key, gives the same answer without it. -/
theorem Ready.visit?_under (h : r.Ready g Nowhere stack)
    (hbottom : ¬ Relation.ReflTransGen g.Reads key.stat bottom.stat) :
    visit? bound (r.under bottom) key =
      (visit? bound r key).map fun result => (result.1, result.2.under bottom) :=
  (unseen_under g bottom).visit?_map h hbottom

private theorem AtRest.resolveAll_eq_of_gather (h : r.AtRest) (hbound : bound ≤ r.budget)
    {values : List ν} (hgather : gather (visit? bound) stats r = some (values, r')) :
    (r.resolveAll stats).1.map (·.value) = values ∧ (r.resolveAll stats).2 = r' := by
  induction stats generalizing r values with
  | nil =>
    cases hgather
    exact ⟨rfl, rfl⟩
  | cons first rest ih =>
    obtain ⟨answer, r₁, values', hfirst, hrest, rfl⟩ := gather_cons_eq_some_iff.mp hgather
    have hresolve : r.resolve first = (answer, r₁) :=
      congrArg (Option.getD · _) (visit?_mono hfirst hbound)
    have hcontinues := h.continues_resolve first none none
    rw [hresolve] at hcontinues
    have hbudget : r₁.budget = r.budget := congrArg Ground.budget hcontinues.ready.ground
    obtain ⟨hvalues, hend⟩ := ih hcontinues.atRest (hbudget ▸ hbound) hrest
    rw [resolveAll, hresolve]
    exact ⟨congrArg (answer.value :: ·) hvalues, hend⟩

/-- A stat that does not depend on itself is computed as if its key were not on the stack. -/
private theorem AtRest.exists_compute (h : r.AtRest) {stat : String} (hstat : key.stat = stat)
    (hcycle : ¬ Relation.TransGen r.ground.Reads stat stat) (hkept : r.cached? key = none)
    {answer : Resolved ν} (hvisit : visit? r.budget r key = some (answer, r')) :
    ∃ n ≤ r.budget, ∃ r₁, compute (visit? n) r key = some (answer, r₁) := by
  subst hstat
  have hpushed : ({ r with stack := key :: r.stack } : Resolver ν) = r.under key := by
    unfold under
    rw [h.stack, h.floor]
    rfl
  obtain ⟨hsome, -⟩ | ⟨-, hmem, -⟩ | ⟨-, -, n, r₁, hbudget, hcompute, -⟩ := visit?_cases hvisit
  · exact absurd (hkept.symm.trans hsome) (Option.some_ne_none answer).symm
  · exact absurd (h.stack ▸ hmem) List.not_mem_nil
  · have hunder : compute (visit? n) (r.under key) key =
        (compute (visit? n) r key).map fun result => (result.1, result.2.under key) :=
      h.ready.compute_map (·.under key) (fun _ => rfl) rfl fun read hreads _ hready =>
        hready.visit?_under fun hback => hcycle (.head' hreads hback)
    rw [hpushed, hunder] at hcompute
    obtain ⟨⟨_, r₂⟩, hplain, heq⟩ := Option.map_eq_some_iff.mp hcompute
    obtain ⟨rfl, -⟩ := Prod.mk.inj heq
    exact ⟨n, hbudget ▸ Nat.le_succ n, r₂, hplain⟩

/-- A stat that does not depend on itself, and whose answer is not kept, comes to what its modifiers
and its attributes make of the values with which the resolver answers the stats that it reads in
turn: first those that its conditions read and then, where no override applies, the attributes. -/
theorem AtRest.resolve_eq (h : r.AtRest) {stat : String} (flags : Option DamageFlags)
    (keywords : Option KeywordFlags)
    (hkept : r.cached? (r.ground.keyOf stat flags keywords) = none)
    (hcycle : ¬ Relation.TransGen r.ground.Reads stat stat) :
    let key := r.ground.keyOf stat flags keywords
    let known := r.resolveAll (r.ground.unknowns stat)
    let ctx := r.informed key (known.1.map (·.value))
    let granted := known.2.resolveAll ((r.ground.rules key).map (·.source))
    (r.resolve stat flags keywords).1 =
      match Resolved.overridden? r.store stat ctx with
      | some answer => answer
      | none => Resolved.combined r.store stat ctx
          ((r.ground.rules key).zip (granted.1.map (·.value))) := by
  intro key known ctx granted
  obtain ⟨answer, r₀, hresolve⟩ : ∃ answer r₀, r.resolve stat flags keywords = (answer, r₀) :=
    ⟨_, _, rfl⟩
  have hrun := h.run_activation stat flags keywords
  rw [hresolve] at hrun ⊢
  obtain ⟨n, hle, r', hcompute⟩ := h.exists_compute rfl hcycle hkept hrun
  obtain ⟨values, r₁, hknown, hend⟩ := compute_eq_some_iff.mp hcompute
  obtain ⟨hvalues, hrest⟩ := h.resolveAll_eq_of_gather hle hknown
  have hctx : r.informed key values = ctx := by rw [← hvalues]; rfl
  obtain ⟨hover, -⟩ | ⟨hover, values', hgranted, hanswer⟩ := hend
  · have hover' : Resolved.overridden? r.store stat ctx = some answer := hctx ▸ hover
    rw [hover']
  · have hover' : Resolved.overridden? r.store stat ctx = none := hctx ▸ hover
    have hcontinues := h.continues_resolveAll (r.ground.unknowns stat)
    have hbudget : known.2.budget = r.budget := congrArg Ground.budget hcontinues.ready.ground
    have hgranted' : gather (visit? n) ((r.ground.rules key).map (·.source)) known.2 =
        some (values', r') := (congrArg _ hrest).trans hgranted
    obtain ⟨hvalues', -⟩ :=
      hcontinues.atRest.resolveAll_eq_of_gather (hbudget ▸ hle) hgranted'
    rw [hover', hanswer, ← hvalues']
    exact congrArg (Resolved.combined r.store stat · _) hctx

/-- The situation in which a resolver computes a stat under the default flags: the stats that its
conditions read have the values that they are answered with in turn. -/
def informedFor (r : Resolver ν) (stat : String) : Context ν :=
  r.informed (r.ground.defaultKey stat)
    ((r.resolveAll (r.ground.unknowns stat)).1.map (·.value))

/-- A stat without overrides that no attribute feeds is what its modifiers make of that
situation. -/
theorem AtRest.resolve_eq_combined (h : r.AtRest) {stat : String}
    (hkept : r.cached? (r.ground.defaultKey stat) = none)
    (hcycle : ¬ Relation.TransGen r.ground.Reads stat stat)
    (hover : ∀ m ∈ r.store.on stat, m.kind ≠ .override)
    (hrules : r.ground.rules (r.ground.defaultKey stat) = []) :
    (r.resolve stat).1 = Resolved.combined r.store stat (r.informedFor stat) [] := by
  have hnone : (r.store.on stat).filter (fun m => m.kind == .override) = [] :=
    List.filter_eq_nil_iff.mpr fun m hm hkind => hover m hm (beq_iff_eq.mp hkind)
  have hover' : Resolved.overridden? r.store stat (r.informedFor stat) = none := by
    rw [Resolved.overridden?, Store.matching, hnone]
    rfl
  have hkey : r.ground.keyOf stat none none = r.ground.defaultKey stat := rfl
  have hanswer := h.resolve_eq none none hkept hcycle
  simp only [hkey, hrules] at hanswer
  rw [hanswer, ← informedFor, hover', List.zip_nil_left]

end Resolver

end Loadout
