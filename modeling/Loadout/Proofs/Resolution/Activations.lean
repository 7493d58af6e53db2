import Loadout.Proofs.Resolution.Queries
import Loadout.Proofs.Resolution.Requests

/-!
# Activations inside one another

Each request of a computation is an activation of its own, so the activations of a resolution form
a tree. The stack holds the keys of those that are open. What is passed through on the way is the
resolver at the beginning of an activation, once it has put its key on the stack, and at its end.
Taking the key off and settling the mark is one step.

## Main definitions

* `Resolver.Continues`: what every activation leaves as it was
* `Activation`: a key that is asked for on a resolver
* `Activation.Reaches`: an activation begins while certain others are open
* `Activation.During`: the resolvers that are passed through

## Main results

* `Resolver.Ready.continues_visit`: an activation leaves the stack and the kept answers as they were
* `Activation.Proper.runs`: every activation of a resolution comes to an end
* `Activation.Reaches.proper`: the stack holds the keys of the open activations
-/

namespace Loadout

variable {ν : Type}

namespace Resolver

variable [Scalar ν] {visit : Resolver ν → ResolverKey → Option (Resolved ν × Resolver ν)}
  {r r' : Resolver ν} {key : ResolverKey} {stat : String} {stats : List String}

/-! ### What every activation leaves as it was -/

/-- After part of a resolution on a stack the stack is as it was, kept answers are as they were, no
key of the stack is kept, and a mark is as shallow as it was or shallower. -/
structure Continues (g : Ground ν) (stack : List ResolverKey) (r r' : Resolver ν) : Prop where
  ready : r'.Ready g Nowhere stack
  kept : ∀ (key : ResolverKey) (answer : Resolved ν),
    r.cache[key]? = some answer → r'.cache[key]? = some answer
  unkept : ∀ key ∈ stack, r.cache[key]? = none → r'.cache[key]? = none
  marked : ∀ f, r.floor = some f → ∃ f' ≤ f, r'.floor = some f'

variable {g : Ground ν} {stack : List ResolverKey}

namespace Continues

theorem refl (h : r.Ready g Nowhere stack) : r.Continues g stack r :=
  ⟨h, fun _ _ => id, fun _ _ => id, fun f hf => ⟨f, Nat.le_refl f, hf⟩⟩

theorem trans {r₁ r₂ : Resolver ν} (h : r.Continues g stack r₁) (h' : r₁.Continues g stack r₂) :
    r.Continues g stack r₂ where
  ready := h'.ready
  kept key answer hkept := h'.kept key answer (h.kept key answer hkept)
  unkept key hkey hkept := h'.unkept key hkey (h.unkept key hkey hkept)
  marked f hf := by
    obtain ⟨f₁, hle, hf₁⟩ := h.marked f hf
    obtain ⟨f₂, hle', hf₂⟩ := h'.marked f₁ hf₁
    exact ⟨f₂, Nat.le_trans hle' hle, hf₂⟩

end Continues

omit [Scalar ν] in
private theorem getElem?_cache_finish {other : ResolverKey} (hne : other ≠ key)
    (answer : Resolved ν) : (r.finish key answer).cache[other]? = r.cache[other]? := by
  rcases cache_finish r key answer with heq | heq
  · rw [heq]
  · rw [heq, Std.HashMap.getElem?_insert, if_neg (by simpa using hne.symm)]

namespace Ready

/-- A key whose answer rests on a zero for a key below it is not kept, and the mark stays. -/
theorem finish_of_lt {f : Nat} (h : r.Ready g Nowhere (key :: stack)) (hf : f < stack.length)
    (hfloor : r.floor = some f) (answer : Resolved ν) :
    r.finish key answer = { r with stack } := by
  rcases h.finish_eq answer with ⟨hnone, -⟩ | ⟨hself, -⟩ | ⟨-, -, -, heq⟩
  · exact absurd (hnone.symm.trans hfloor) (Option.some_ne_none f).symm
  · exact absurd (Option.some.inj (hself.symm.trans hfloor)) (Nat.ne_of_gt hf)
  · exact heq

theorem continues_meetAgain (h : r.Ready g Nowhere stack) (hkey : key ∈ stack) :
    r.Continues g stack (r.meetAgain (depthIn stack key)) where
  ready := h.ready_meetAgain hkey
  kept _ _ := id
  unkept _ _ := id
  marked f hf := by
    refine ⟨min f (depthIn stack key), Nat.min_le_left _ _, ?_⟩
    rw [meetAgain, hf]

theorem continues_finish (hready : r.Ready g Nowhere stack) (hkept : r.cache[key]? = none)
    (hkey : key ∉ stack)
    (h : Continues g (key :: stack) { r with stack := key :: r.stack } r') (answer : Resolved ν) :
    r.Continues g stack (r'.finish key answer) where
  ready := (h.ready.finish fun _ => False.elim).1
  kept other answer' hother := by
    have hne : other ≠ key := fun hsame =>
      absurd (hkept.symm.trans (hsame ▸ hother)) (Option.some_ne_none answer').symm
    rw [getElem?_cache_finish hne]
    exact h.kept other answer' hother
  unkept other hmem hother := by
    have hne : other ≠ key := fun hsame => hkey (hsame ▸ hmem)
    rw [getElem?_cache_finish hne]
    exact h.unkept other (List.mem_cons_of_mem _ hmem) hother
  marked f hf := by
    -- A mark from before is below the key, so it stays.
    obtain ⟨f', hle, hf'⟩ := h.marked f hf
    have hlt := Nat.lt_of_le_of_lt hle (hready.floor f hf)
    refine ⟨f', hle, ?_⟩
    rw [h.ready.finish_of_lt hlt hf' answer]
    exact hf'

section

variable (hvisit : ∀ (r : Resolver ν) (key : ResolverKey) (answer : Resolved ν) (r' : Resolver ν),
  r.Ready g Nowhere stack → visit r key = some (answer, r') → r.Continues g stack r')
include hvisit

private theorem along_continues :
    Along visit fun r r' => r.Ready g Nowhere stack → r.Continues g stack r' where
  refl _ h := .refl h
  trans h h' hready := (h hready).trans (h' (h hready).ready)
  answered h hready := hvisit _ _ _ _ hready h

theorem continues_gather (h : r.Ready g Nowhere stack) {values : List ν}
    (hgather : gather visit stats r = some (values, r')) : r.Continues g stack r' :=
  (along_continues hvisit).gather hgather h

private theorem continues_requests (h : r.Ready g Nowhere stack)
    (hrequests : Requests visit r key stat r') : r.Continues g stack r' :=
  (along_continues hvisit).requests hrequests h

theorem continues_compute (h : r.Ready g Nowhere stack) {answer : Resolved ν}
    (hcompute : compute visit r key = some (answer, r')) : r.Continues g stack r' :=
  (along_continues hvisit).compute hcompute h

/-- From the answer to a request to the end of the computation. -/
private theorem continues_rest (h : r.Ready g Nowhere stack) {answer : Resolved ν}
    (hcompute : compute visit r key = some (answer, r')) {r₁ : Resolver ν}
    (hrequests : Requests visit r key stat r₁) :
    ∃ answer' r₂, visit r₁ (r₁.defaultKey stat) = some (answer', r₂) ∧
      r₂.Continues g stack r' := by
  have hbefore := h.continues_requests hvisit hrequests
  obtain ⟨answer', r₂, hanswer, hrest⟩ := (along_continues hvisit).rest hcompute hrequests
  exact ⟨answer', r₂, hanswer, hrest (hvisit _ _ _ _ hbefore.ready hanswer).ready⟩

end

/-- Every activation that comes to an end leaves the stack and the kept answers as they were. -/
theorem continues_visit {bound : Nat} (h : r.Ready g Nowhere stack) {answer : Resolved ν}
    (hvisit : visit? bound r key = some (answer, r')) : r.Continues g stack r' := by
  induction bound using Nat.strongRecOn generalizing r stack key answer r' with
  | ind bound ih =>
    obtain ⟨hkept, rfl⟩ | ⟨hkept, hkey, rfl, rfl⟩ | ⟨hkept, hkey, n, r₁, rfl, hcompute, rfl⟩ :=
      visit?_cases hvisit
    · exact .refl h
    · rw [h.onStack] at hkey ⊢
      exact h.continues_meetAgain hkey
    · have hcontinues := (h.push key).continues_compute
        (fun r key answer r' hready hvisit => ih n (Nat.lt_succ_self n) hready hvisit) hcompute
      exact h.continues_finish hkept (h.onStack ▸ hkey) hcontinues answer

end Ready

end Resolver

/-! ### Activations -/

/-- A key that is asked for on a resolver, within a budget of nested activations. -/
structure Activation (ν : Type) where
  bound : Nat
  resolver : Resolver ν
  key : ResolverKey

/-- The activation that resolves a stat between queries. -/
def Resolver.activation (r : Resolver ν) (stat : String) (flags : Option DamageFlags)
    (keywords : Option KeywordFlags) : Activation ν :=
  ⟨r.budget, r, r.ground.keyOf stat flags keywords⟩

namespace Activation

/-- The resolver once the key has been put on the stack. -/
def entered (a : Activation ν) : Resolver ν :=
  { a.resolver with stack := a.key :: a.resolver.stack }

/-- The depth of the key, if it is put on the stack. -/
def depth (a : Activation ν) : Nat :=
  a.resolver.stack.length

/-- The key is put on the stack and computed: no answer is kept for it, and it is not there yet. -/
structure Opens (a : Activation ν) : Prop where
  unkept : a.resolver.cached? a.key = none
  notOpen : a.key ∉ a.resolver.stack

/-- The key is met again at a depth, and counts as zero: no answer is kept for it, and it is there
already. -/
structure MeetsAgain (a : Activation ν) (depth : Nat) : Prop where
  unkept : a.resolver.cached? a.key = none
  found : a.resolver.depth? a.key = some depth

variable [Scalar ν]

/-- What the activation comes to: an answer, and the resolver afterwards. -/
def run (a : Activation ν) : Option (Resolved ν × Resolver ν) :=
  Resolver.visit? a.bound a.resolver a.key

/-- One activation makes another, by asking for a stat while it computes its key. -/
structure Makes (a b : Activation ν) : Prop where
  opens : a.Opens
  bound : a.bound = b.bound + 1
  requests : ∃ stat, Resolver.Requests (Resolver.visit? b.bound) a.entered a.key stat b.resolver ∧
    b.key = b.resolver.defaultKey stat

/-- In the course of one activation another begins, while certain activations are open, innermost
first. -/
inductive Reaches (top : Activation ν) : List (Activation ν) → Activation ν → Prop
  | top : Reaches top [] top
  | nested {frames : List (Activation ν)} {a b : Activation ν} (h : Reaches top frames a)
      (hmakes : a.Makes b) : Reaches top (a :: frames) b

/-- In the course of an activation a resolver is passed through: at the beginning of an activation,
once it has put its key on the stack, or at its end. -/
inductive During (top : Activation ν) : Resolver ν → Prop
  | start {frames : List (Activation ν)} {a : Activation ν} (h : Reaches top frames a) :
      During top a.resolver
  | entered {frames : List (Activation ν)} {a : Activation ν} (h : Reaches top frames a)
      (hopens : a.Opens) : During top a.entered
  | finish {frames : List (Activation ν)} {a : Activation ν} (h : Reaches top frames a)
      {answer : Resolved ν} {r : Resolver ν} (hrun : a.run = some (answer, r)) : During top r

/-- An activation that begins as one does in a resolution on a ground: on a ready resolver, for a
key that can be asked for on its stack, within what is left of the budget. -/
structure Proper (g : Ground ν) (stack : List ResolverKey) (a : Activation ν) : Prop where
  ready : a.resolver.Ready g Nowhere stack
  reached : g.Reached Nowhere stack a.key
  bound : a.bound = g.budget - stack.length

variable {g : Ground ν} {stack : List ResolverKey} {a b top : Activation ν}
  {frames : List (Activation ν)}

theorem Opens.run_eq (h : a.Opens) {n : Nat} (hbound : a.bound = n + 1) :
    a.run = (Resolver.compute (Resolver.visit? n) a.entered a.key).map fun result =>
      (result.1, result.2.finish a.key result.1) := by
  rw [run, hbound]
  exact Resolver.visit?_of_notMem h.unkept h.notOpen n

namespace Proper

/-- Every proper activation comes to an end. -/
theorem runs (h : a.Proper g stack) :
    ∃ answer r', a.run = some (answer, r') ∧ a.resolver.Continues g stack r' := by
  have hclosed : g.Closed Nowhere := fun _ _ hstat _ => hstat.elim
  obtain ⟨answer, r', hvisit, -⟩ := h.ready.activates_visit hclosed h.reached
  rw [← h.bound] at hvisit
  exact ⟨answer, r', hvisit, h.ready.continues_visit hvisit⟩

/-- From the moment when an activation has put its key on the stack to the beginning of one that it
makes. -/
theorem continues_makes (h : a.Proper g stack) (hmakes : a.Makes b) :
    a.entered.Continues g (a.key :: stack) b.resolver := by
  obtain ⟨stat, hrequests, -⟩ := hmakes.requests
  exact (h.ready.push a.key).continues_requests
    (fun r key answer r' hready hvisit => hready.continues_visit hvisit) hrequests

theorem makes (h : a.Proper g stack) (hmakes : a.Makes b) : b.Proper g (a.key :: stack) where
  ready := (h.continues_makes hmakes).ready
  reached := by
    obtain ⟨stat, hrequests, hkey⟩ := hmakes.requests
    have hground : b.resolver.ground = g := (h.continues_makes hmakes).ready.ground
    have hreads : g.Reads a.key.stat stat := by
      rw [← h.ready.ground]
      exact hrequests.reads
    have hdefault : b.key = g.defaultKey stat := by rw [hkey, ← hground]; rfl
    rw [hdefault]
    exact h.reached.ask (h.ready.onStack ▸ hmakes.opens.notOpen) hreads False.elim
  bound := by
    have hbound := hmakes.bound
    rw [h.bound] at hbound
    rw [List.length_cons]
    omega

theorem run_of_makes (h : a.Proper g stack) (hmakes : a.Makes b) :
    ∃ answer r₁ answer' r', b.run = some (answer, r₁) ∧
      a.entered.Continues g (a.key :: stack) r' ∧ r₁.Continues g (a.key :: stack) r' ∧
      a.run = some (answer', r'.finish a.key answer') := by
  obtain ⟨stat, hrequests, hkey⟩ := hmakes.requests
  obtain ⟨answer', r'', hrun, -⟩ := h.runs
  rw [hmakes.opens.run_eq hmakes.bound, Option.map_eq_some_iff] at hrun
  obtain ⟨⟨computed, r'⟩, hcompute, -⟩ := hrun
  have hwhole := (h.ready.push a.key).continues_compute
    (fun r key answer r' hready hvisit => hready.continues_visit hvisit) hcompute
  obtain ⟨answer, r₁, hvisit, hrest⟩ := (h.ready.push a.key).continues_rest
    (fun r key answer r' hready hvisit => hready.continues_visit hvisit) hcompute hrequests
  rw [← hkey] at hvisit
  refine ⟨answer, r₁, computed, r', hvisit, hwhole, hrest, ?_⟩
  rw [hmakes.opens.run_eq hmakes.bound, hcompute, Option.map_some]

end Proper

/-- The activations of a resolution are proper, and the stack holds the keys of the open ones. -/
theorem Reaches.proper (h : top.Reaches frames a) (htop : top.Proper g []) :
    a.Proper g (frames.map (·.key)) := by
  induction h with
  | top => exact htop
  | nested _ hmakes ih => exact ih.makes hmakes

end Activation

end Loadout
