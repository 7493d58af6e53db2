import Loadout.Proofs.Resolution.Calls

/-!
# The stack and the mark of a resolver

One mark stands for all cycles that are open at once: the shallowest depth whose key was met again.
It is made shallower by later meetings, it lies below every activation that is nested deeper, and it
goes only with the activation that stands at its depth. So when a key is met again at some depth,
every activation that is open at this depth or deeper finds a mark when it ends, and its answer is
not kept.

## Main definitions

* `Activation.Disciplined`: what holds in the course of a resolution

## Main results

* `Activation.Reaches.unkept_of_marked`: a mark at some depth keeps the answers from there on out
* `Activation.Proper.disciplined`: every proper resolution is disciplined
* `Resolver.atRest_and_disciplined`: so is every resolution of every call, and between calls a
  resolver is at rest
-/

namespace Loadout

variable {ν : Type} [Scalar ν]

/-- An answer is not kept when there is a mark at its end. -/
theorem Resolver.Ready.cache_finish_of_marked {g : Ground ν} {stack : List ResolverKey}
    {r : Resolver ν} {key : ResolverKey} (h : r.Ready g Nowhere (key :: stack)) {f : Nat}
    (hfloor : r.floor = some f) (answer : Resolved ν) : (r.finish key answer).cache = r.cache := by
  rcases h.finish_eq answer with ⟨hnone, -⟩ | ⟨-, heq⟩ | ⟨-, -, -, heq⟩
  · exact absurd (hnone.symm.trans hfloor) (Option.some_ne_none f).symm
  · rw [heq]
  · rw [heq]

namespace Activation

/-- What holds in the course of a resolution: the stack holds the keys of the open activations, they
are different, the mark lies on the stack, and when a key is met again at some depth, it counts as
zero and none of the activations that are open at this depth or deeper has its answer kept. -/
structure Disciplined (top : Activation ν) : Prop where
  stack : ∀ frames a, top.Reaches frames a → a.resolver.stack = frames.map (·.key)
  nodup : ∀ r, top.During r → r.stack.Nodup
  floor : ∀ r, top.During r → ∀ depth, r.floor = some depth → depth < r.stack.length
  unkept : ∀ frames a depth, top.Reaches frames a → a.MeetsAgain depth →
    a.run = some (.nothing a.key.stat, a.resolver.meetAgain depth) ∧
      ∀ frame ∈ frames, depth ≤ frame.depth →
        ∃ answer r, frame.run = some (answer, r) ∧ r.cached? frame.key = none

variable {g : Ground ν} {stack : List ResolverKey} {a b top : Activation ν}
  {frames : List (Activation ν)}

/-- What is passed through is ready on some stack of different keys. -/
theorem During.ready (htop : top.Proper g []) {r : Resolver ν} (h : top.During r) :
    ∃ stack, r.Ready g Nowhere stack ∧ stack.Nodup ∧
      ∀ key ∈ stack.dropLast, key ∈ g.mentioned.map g.defaultKey := by
  have hlower {frames : List (Activation ν)} {a : Activation ν} (h : top.Reaches frames a) :
      ∀ key ∈ (frames.map (·.key)).dropLast, key ∈ g.mentioned.map g.defaultKey := by
    intro key hkey
    refine (h.proper htop).reached.mem_mentioned key ?_
    cases hkeys : frames.map (·.key) with
    | nil =>
      rw [hkeys] at hkey
      exact absurd hkey List.not_mem_nil
    | cons first rest =>
      rw [hkeys] at hkey
      exact List.mem_cons_of_mem _ hkey
  cases h with
  | start h => exact ⟨_, (h.proper htop).ready, (h.proper htop).reached.nodup, hlower h⟩
  | entered h hopens =>
    have hproper := h.proper htop
    refine ⟨_, hproper.ready.push _, ?_, hproper.reached.mem_mentioned⟩
    exact List.nodup_cons.mpr ⟨hproper.ready.onStack ▸ hopens.notOpen, hproper.reached.nodup⟩
  | finish h hrun =>
    have hproper := h.proper htop
    exact ⟨_, (hproper.ready.continues_visit hrun).ready, hproper.reached.nodup, hlower h⟩

theorem Reaches.depth_eq (htop : top.Proper g []) (h : top.Reaches frames a) :
    a.depth = frames.length := by
  rw [depth, (h.proper htop).ready.onStack, List.length_map]

theorem Reaches.depth_lt (htop : top.Proper g []) (h : top.Reaches frames a) :
    ∀ frame ∈ frames, frame.depth < a.depth := by
  induction h with
  | top => exact fun frame hframe => absurd hframe List.not_mem_nil
  | nested h hmakes ih =>
    intro frame hframe
    rw [(h.nested hmakes).depth_eq htop, List.length_cons, ← h.depth_eq htop]
    rcases List.mem_cons.mp hframe with rfl | hframe
    · exact Nat.lt_succ_self _
    · exact Nat.lt_succ_of_lt (ih frame hframe)

/-- A key that is met again counts as zero and leaves its mark. -/
theorem MeetsAgain.run_eq {depth : Nat} (h : a.MeetsAgain depth) :
    a.run = some (.nothing a.key.stat, a.resolver.meetAgain depth) := by
  have hkept : a.resolver.cache[a.key]? = none := h.unkept
  unfold run Resolver.visit?
  rw [hkept]
  dsimp only
  rw [h.found]

/-- When an activation ends with a mark at some depth or below, no activation that is open at this
depth or deeper has its answer kept: each of them ends with a mark in turn. -/
theorem Reaches.unkept_of_marked (htop : top.Proper g []) (h : top.Reaches frames b)
    {depth f : Nat} {answer : Resolved ν} {r : Resolver ν} (hrun : b.run = some (answer, r))
    (hfloor : r.floor = some f) (hle : f ≤ depth) :
    ∀ frame ∈ frames, depth ≤ frame.depth →
      ∃ answer r, frame.run = some (answer, r) ∧ r.cached? frame.key = none := by
  -- The induction is on the open activations, from the innermost to the outermost.
  induction h generalizing answer r f with
  | top => exact fun frame hframe => absurd hframe List.not_mem_nil
  | @nested frames a b h hmakes ih =>
    have hproper := h.proper htop
    obtain ⟨answer₁, r₁, answer₂, r₂, hrun₁, hwhole, hrest, hrun₂⟩ := hproper.run_of_makes hmakes
    obtain ⟨rfl, rfl⟩ := Prod.mk.inj (Option.some.inj (hrun.symm.trans hrun₁))
    obtain ⟨f', hle', hfloor'⟩ := hrest.marked f hfloor
    intro frame hframe hdepth
    rcases List.mem_cons.mp hframe with rfl | hframe
    · refine ⟨answer₂, _, hrun₂, ?_⟩
      rw [Resolver.cached?, hrest.ready.cache_finish_of_marked hfloor']
      exact hwhole.unkept _ List.mem_cons_self hmakes.opens.unkept
    · -- The mark is below this activation, so it outlasts it.
      have hlt : f' < (frames.map (·.key)).length := by
        have hless := h.depth_lt htop frame hframe
        rw [h.depth_eq htop] at hless
        rw [List.length_map]
        omega
      refine ih hrun₂ (f := f') ?_ (Nat.le_trans hle' hle) frame hframe hdepth
      rw [hrest.ready.finish_of_lt hlt hfloor']
      exact hfloor'

/-- Every proper resolution is disciplined. -/
theorem Proper.disciplined (htop : top.Proper g []) : top.Disciplined where
  stack frames a h := (h.proper htop).ready.onStack
  nodup r h := by
    obtain ⟨stack, hready, hnodup, -⟩ := h.ready htop
    rw [hready.onStack]
    exact hnodup
  floor r h depth hdepth := by
    obtain ⟨stack, hready, -⟩ := h.ready htop
    rw [hready.onStack]
    exact hready.floor depth hdepth
  unkept frames a depth h hmeets := by
    refine ⟨hmeets.run_eq, ?_⟩
    obtain ⟨f, hf, hfloor⟩ : ∃ f ≤ depth, (a.resolver.meetAgain depth).floor = some f := by
      cases hmark : a.resolver.floor with
      | none => exact ⟨depth, Nat.le_refl depth, by rw [Resolver.meetAgain, hmark]⟩
      | some f => exact ⟨min f depth, Nat.min_le_right f depth, by rw [Resolver.meetAgain, hmark]⟩
    exact h.unkept_of_marked htop hmeets.run_eq hfloor hf

end Activation

/-- Whatever a resolver was called for, it is at rest between calls, and every resolution that its
next call makes is disciplined. -/
theorem Resolver.atRest_and_disciplined (store : Store ν) (defaults : Context ν)
    (earlier : List (Call ν)) (call : Call ν) :
    let r := ((ofStore store defaults).callAll earlier).2
    (r.stack = [] ∧ r.floor = none) ∧ ∀ top ∈ r.activations call, top.Disciplined := by
  intro r
  have hrest : r.AtRest := (atRest_ofStore store defaults).callAll earlier
  refine ⟨⟨hrest.stack, hrest.floor⟩, fun top htop => ?_⟩
  exact (hrest.begins htop).1.disciplined

end Loadout
