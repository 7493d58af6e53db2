import Loadout.Proofs.Resolution.Chains

/-!
# What a resolver answers

A resolver that has kept answers gives the answers of one that keeps none, as long as no kept
answer hides that a key of the stack is met. The mark that a resolver carries tells the
shallowest depth at which a key was met, so an answer is kept only when nothing below was met
on the way, and then it is the answer to the same key asked alone. Whether it would have met
something on another stack the mark does not tell.

Everything is stated for a region of stats that is closed under reading. Outside of it nothing is
said about answers, only that they come.

## Main definitions

* `Resolver.Ready`: the invariant between activations on a stack
* `Resolver.Harmless`: no kept answer hides that a key is met
* `Resolver.Activates`: what one activation does
* `Ground.RestsOnZero`: an answer that meets a key inside the resolution of another
* `Ground.Undisturbed`: no answer that can be kept rests on a zero elsewhere

## Main results

* `Resolver.Ready.activates_visit`: every activation comes to an end and does what it should
-/

namespace Loadout

variable {ν : Type}

/-! ### Depths and marks -/

/-- The depth of a key on a stack, counted from the outermost. -/
def depthIn (stack : List ResolverKey) (key : ResolverKey) : Nat :=
  stack.reverse.idxOf key

theorem depthIn_lt {stack : List ResolverKey} {key : ResolverKey} (h : key ∈ stack) :
    depthIn stack key < stack.length := by
  have hlt := List.idxOf_lt_length_of_mem (List.mem_reverse.mpr h)
  rwa [List.length_reverse] at hlt

theorem depthIn_cons_self {stack : List ResolverKey} {key : ResolverKey} (h : key ∉ stack) :
    depthIn (key :: stack) key = stack.length := by
  rw [depthIn, List.reverse_cons, List.idxOf_append_of_notMem (by rwa [List.mem_reverse]),
    List.idxOf_cons_self, List.length_reverse, Nat.add_zero]

theorem depthIn_cons_of_mem {stack : List ResolverKey} {key other : ResolverKey}
    (h : other ∈ stack) : depthIn (key :: stack) other = depthIn stack other := by
  rw [depthIn, List.reverse_cons, List.idxOf_append_of_mem (List.mem_reverse.mpr h), depthIn]

/-- No key was met at a smaller depth. -/
def ClearBelow (floor : Option Nat) (depth : Nat) : Prop :=
  ∀ f, floor = some f → depth ≤ f

theorem clearBelow_none (depth : Nat) : ClearBelow none depth :=
  nofun

theorem clearBelow_some {f depth : Nat} : ClearBelow (some f) depth ↔ depth ≤ f :=
  ⟨fun h => h f rfl, fun h _ hf => Option.some.inj hf ▸ h⟩

namespace Resolver

theorem depth?_of_mem {r : Resolver ν} {key : ResolverKey} (h : key ∈ r.stack) :
    r.depth? key = some (depthIn r.stack key) := by
  rw [depth?, List.findIdx?_eq_guard_findIdx_lt]
  exact Option.guard_eq_some_iff.mpr ⟨rfl, by
    rw [decide_eq_true_iff, List.length_reverse]
    exact depthIn_lt h⟩

theorem depth?_of_notMem {r : Resolver ν} {key : ResolverKey} (h : key ∉ r.stack) :
    r.depth? key = none := by
  rw [depth?, List.findIdx?_eq_none_iff]
  intro other hother
  refine beq_eq_false_iff_ne.mpr fun heq => h ?_
  rw [← heq]
  exact List.mem_reverse.mp hother

/-- A met key makes the mark shallower, never deeper. -/
theorem clearBelow_meetAgain (r : Resolver ν) (met depth : Nat) :
    ClearBelow (r.meetAgain met).floor depth ↔ ClearBelow r.floor depth ∧ depth ≤ met := by
  cases hfloor : r.floor with
  | none =>
    simp only [meetAgain, hfloor, clearBelow_some, clearBelow_none, true_and]
  | some f =>
    simp only [meetAgain, hfloor, clearBelow_some, Nat.le_min]

variable [Scalar ν]

/-! ### Activations -/

theorem visit?_of_kept {r : Resolver ν} {key : ResolverKey} {answer : Resolved ν}
    (h : r.cache[key]? = some answer) (bound : Nat) :
    visit? bound r key = some (answer, r) := by
  unfold visit?
  rw [h]

theorem visit?_of_mem {r : Resolver ν} {key : ResolverKey} (hkept : r.cache[key]? = none)
    (hkey : key ∈ r.stack) (bound : Nat) :
    visit? bound r key = some (.nothing key.stat, r.meetAgain (depthIn r.stack key)) := by
  unfold visit?
  rw [hkept]
  dsimp only
  rw [depth?_of_mem hkey]

theorem visit?_of_notMem {r : Resolver ν} {key : ResolverKey} (hkept : r.cache[key]? = none)
    (hkey : key ∉ r.stack) (bound : Nat) :
    visit? (bound + 1) r key =
      (compute (visit? bound) { r with stack := key :: r.stack } key).map fun result =>
        (result.1, result.2.finish key result.1) := by
  rw [visit?, hkept]
  dsimp only
  rw [depth?_of_notMem hkey]
  dsimp only
  cases compute (visit? bound) { r with stack := key :: r.stack } key <;> rfl

theorem visit?_eq_settle {g : Ground ν} {r r' : Resolver ν} {key : ResolverKey} {bound : Nat}
    (hg : r.ground = g) (hkept : r.cache[key]? = none) (hkey : key ∉ r.stack)
    {value : String → ν}
    (h : gather (visit? bound) (g.consulted key value) { r with stack := key :: r.stack } =
      some ((g.consulted key value).map value, r')) :
    visit? (bound + 1) r key =
      some (g.settle key value, r'.finish key (g.settle key value)) := by
  have hpushed : ground { r with stack := key :: r.stack } = g := hg
  rw [visit?_of_notMem hkept hkey, compute_eq_settle hpushed h, Option.map_some]

end Resolver

variable [Scalar ν]

/-- The region of no stat. -/
def Nowhere : String → Prop :=
  fun _ => False

/-- Inside the resolution of another key, the answer to a key rests on a zero: on some stack on
which it can be asked for, the key meets one below. -/
def Ground.RestsOnZero (g : Ground ν) (region : String → Prop) (key : ResolverKey) : Prop :=
  ∃ stack, g.Reached region stack key ∧ ∃ met ∈ stack, g.Meets stack key met

/-- In a region of stats, an answer that met nothing when its key was asked for alone rests on no
zero anywhere. -/
def Ground.Undisturbed (g : Ground ν) (region : String → Prop) : Prop :=
  ∀ key, region key.stat → ¬ g.Meets [] key key → ¬ g.RestsOnZero region key

namespace Resolver

/-- Between activations on a stack the mark is on the stack, and every kept answer for a stat of the
region is the answer to its key asked alone, which met nothing. -/
structure Ready (g : Ground ν) (region : String → Prop) (stack : List ResolverKey)
    (r : Resolver ν) : Prop where
  ground : r.ground = g
  onStack : r.stack = stack
  floor : ∀ depth, r.floor = some depth → depth < stack.length
  kept : ∀ key answer, r.cache[key]? = some answer → region key.stat →
    answer = g.afresh [] key ∧ ¬ g.Meets [] key key

/-- No kept answer for a stat of the region that met nothing when its key was asked for alone rests
on a zero anywhere. -/
def Harmless (g : Ground ν) (region : String → Prop) (r : Resolver ν) : Prop :=
  ∀ key ∈ r.cache, region key.stat → ¬ g.Meets [] key key → ¬ g.RestsOnZero region key

/-- After an activation the stack is as it was, the mark is on it, and nothing is forgotten. -/
structure Returns (g : Ground ν) (stack : List ResolverKey) (r r' : Resolver ν) : Prop where
  ready : r'.Ready g Nowhere stack
  remembers : ∀ key ∈ r.cache, key ∈ r'.cache

/-- What one activation does to a ready resolver as long as nothing harmful is kept. For a stat of
the region, the answer is the one that is given without kept answers, the mark is made shallower
by the keys that were met and by nothing else, and an answer that met nothing is kept. -/
structure Visited (g : Ground ν) (region : String → Prop) (stack : List ResolverKey)
    (key : ResolverKey) (r : Resolver ν) (answer : Resolved ν) (r' : Resolver ν) : Prop where
  ready : r'.Ready g region stack
  afresh : region key.stat → answer = g.afresh stack key
  floor : region key.stat → ∀ depth ≤ stack.length, ClearBelow r'.floor depth ↔
    ClearBelow r.floor depth ∧ ∀ met ∈ stack, g.Meets stack key met → depth ≤ depthIn stack met
  keeps : region key.stat → r.floor = none → (∀ met ∈ key :: stack, ¬ g.Meets stack key met) →
    r'.cache[key]? = some answer

/-- What asking for stats in turn does to a ready resolver as long as nothing harmful is kept. -/
structure Gathered (g : Ground ν) (region : String → Prop) (stack : List ResolverKey)
    (stats : List String) (r : Resolver ν) (values : List ν) (r' : Resolver ν) : Prop where
  ready : r'.Ready g region stack
  afresh : (∀ stat ∈ stats, region stat) →
    values = stats.map fun stat => (g.afresh stack (g.defaultKey stat)).value
  floor : (∀ stat ∈ stats, region stat) → ∀ depth ≤ stack.length, ClearBelow r'.floor depth ↔
    ClearBelow r.floor depth ∧ ∀ stat ∈ stats, ∀ met ∈ stack,
      g.Meets stack (g.defaultKey stat) met → depth ≤ depthIn stack met

/-- What computing a key on top of a stack does to a ready resolver as long as nothing harmful is
kept. -/
structure Computed (g : Ground ν) (region : String → Prop) (stack : List ResolverKey)
    (key : ResolverKey) (r : Resolver ν) (answer : Resolved ν) (r' : Resolver ν) : Prop where
  ready : r'.Ready g region (key :: stack)
  afresh : region key.stat → answer = g.afresh stack key
  floor : region key.stat → ∀ depth ≤ (key :: stack).length, ClearBelow r'.floor depth ↔
    ClearBelow r.floor depth ∧ ∀ met ∈ key :: stack, g.Meets stack key met →
      depth ≤ depthIn (key :: stack) met

/-- An activation comes to an end, and does what it should. -/
def Activates (g : Ground ν) (region : String → Prop) (stack : List ResolverKey)
    (key : ResolverKey) (r : Resolver ν) (result : Option (Resolved ν × Resolver ν)) : Prop :=
  ∃ answer r', result = some (answer, r') ∧ r.Returns g stack r' ∧
    (g.Reached region stack key → r'.Harmless g region → r.Ready g region stack →
      Visited g region stack key r answer r')

variable {g : Ground ν} {region : String → Prop} {stack : List ResolverKey}
  {key : ResolverKey} {r r' : Resolver ν}

/-- What is harmless in the end was harmless before, when nothing was forgotten. -/
theorem Harmless.of_remembers {r₁ r₂ : Resolver ν} (h : r₂.Harmless g region)
    (hremembers : ∀ key ∈ r₁.cache, key ∈ r₂.cache) : r₁.Harmless g region :=
  fun key hkey => h key (hremembers key hkey)

theorem harmless_of_undisturbed (h : g.Undisturbed region) (r : Resolver ν) :
    r.Harmless g region :=
  fun key _ => h key

namespace Returns

theorem refl (h : r.Ready g Nowhere stack) : r.Returns g stack r :=
  ⟨h, fun _ => id⟩

theorem trans {r₁ r₂ : Resolver ν} (h : r.Returns g stack r₁) (h' : r₁.Returns g stack r₂) :
    r.Returns g stack r₂ :=
  ⟨h'.ready, fun key hkey => h'.remembers key (h.remembers key hkey)⟩

end Returns

omit [Scalar ν] in
/-- Taking a key off the stack leaves the kept answers as they were or keeps one more. -/
theorem cache_finish (r : Resolver ν) (key : ResolverKey) (answer : Resolved ν) :
    (r.finish key answer).cache = r.cache ∨
      (r.finish key answer).cache = r.cache.insert key answer := by
  unfold finish
  dsimp only
  split
  · split
    · exact .inl rfl
    · split
      · exact .inl rfl
      · exact .inr rfl
  · exact .inr rfl

omit [Scalar ν] in
theorem mem_cache_finish {other : ResolverKey} (h : other ∈ r.cache) (key : ResolverKey)
    (answer : Resolved ν) : other ∈ (r.finish key answer).cache := by
  rcases cache_finish r key answer with heq | heq
  · rwa [heq]
  · rw [heq]
    exact Std.HashMap.mem_insert.mpr (.inr h)

namespace Ready

theorem push (h : r.Ready g region stack) (key : ResolverKey) :
    Ready g region (key :: stack) { r with stack := key :: r.stack } where
  ground := h.ground
  onStack := congrArg (key :: ·) h.onStack
  floor depth hdepth := Nat.lt_succ_of_lt (h.floor depth hdepth)
  kept := h.kept

/-- Stats are asked for in turn on a stack. -/
theorem exists_gather {visit : Resolver ν → ResolverKey → Option (Resolved ν × Resolver ν)}
    (h : r.Ready g Nowhere stack) (region : String → Prop) (stats : List String)
    (hvisit : ∀ stat ∈ stats, ∀ r : Resolver ν, r.Ready g Nowhere stack →
      Activates g region stack (g.defaultKey stat) r (visit r (g.defaultKey stat))) :
    ∃ values r', gather visit stats r = some (values, r') ∧ r.Returns g stack r' ∧
      ((∀ stat ∈ stats, g.Reached region stack (g.defaultKey stat)) → r'.Harmless g region →
        r.Ready g region stack → Gathered g region stack stats r values r') := by
  induction stats generalizing r with
  | nil =>
    refine ⟨[], r, rfl, .refl h, fun _ _ hready => ⟨hready, fun _ => rfl, fun _ depth _ => ?_⟩⟩
    simp only [List.not_mem_nil, false_imp_iff, implies_true, and_true]
  | cons stat stats ih =>
    obtain ⟨answer, r₁, hanswer, hreturns, hvisited⟩ := hvisit stat List.mem_cons_self r h
    obtain ⟨values, r₂, hvalues, hreturns', hgathered⟩ := ih hreturns.ready
      fun stat hstat => hvisit stat (List.mem_cons_of_mem _ hstat)
    have hkey : r.defaultKey stat = g.defaultKey stat := by rw [← h.ground]; rfl
    refine ⟨answer.value :: values, r₂, ?_, hreturns.trans hreturns',
      fun hreached hharmless hready => ?_⟩
    · simp only [gather, hkey, hanswer, hvalues, Option.bind_eq_bind, Option.bind_some,
        Option.pure_def]
    · rw [List.forall_mem_cons] at hreached
      have hfirst := hvisited hreached.1 (hharmless.of_remembers hreturns'.remembers) hready
      have hrest := hgathered hreached.2 hharmless hfirst.ready
      refine ⟨hrest.ready, fun hregion => ?_, fun hregion depth hdepth => ?_⟩
      · rw [List.forall_mem_cons] at hregion
        rw [hfirst.afresh hregion.1, hrest.afresh hregion.2, List.map_cons]
      · rw [List.forall_mem_cons] at hregion
        rw [hrest.floor hregion.2 depth hdepth, hfirst.floor hregion.1 depth hdepth, and_assoc]
        simp only [List.forall_mem_cons]

/-- The three ways to take the innermost key off the stack: its answer is kept when nothing was met,
the mark goes when the key itself was the shallowest that was met, and it stays when one below
was. -/
theorem finish_eq (h : r.Ready g region (key :: stack)) (answer : Resolved ν) :
    (r.floor = none ∧
      r.finish key answer = { r with stack, cache := r.cache.insert key answer }) ∨
    (r.floor = some stack.length ∧ r.finish key answer = { r with stack, floor := none }) ∨
    (∃ f < stack.length, r.floor = some f ∧ r.finish key answer = { r with stack }) := by
  have hstack : r.stack.drop 1 = stack := by rw [h.onStack]; rfl
  unfold Resolver.finish
  rw [hstack]
  dsimp only
  cases hfloor : r.floor with
  | none => exact .inl ⟨rfl, rfl⟩
  | some f =>
    have hlt := h.floor f hfloor
    rw [List.length_cons] at hlt
    dsimp only
    by_cases hf : f = stack.length
    · rw [if_pos hf, hf]
      exact .inr (.inl ⟨rfl, rfl⟩)
    · have hless : f < stack.length := by omega
      rw [if_neg hf, if_pos hless]
      exact .inr (.inr ⟨f, hless, rfl, rfl⟩)

/-- Taking the innermost key off the stack keeps the invariant, and the mark as far as it is on the
stack that is left. -/
theorem finish {answer : Resolved ν} (h : r.Ready g region (key :: stack))
    (hanswer : r.floor = none → region key.stat →
      answer = g.afresh [] key ∧ ¬ g.Meets [] key key) :
    (r.finish key answer).Ready g region stack ∧
      (∀ depth ≤ stack.length,
        ClearBelow (r.finish key answer).floor depth ↔ ClearBelow r.floor depth) ∧
      (r.floor = none → (r.finish key answer).cache[key]? = some answer) := by
  rcases h.finish_eq answer with ⟨hfloor, heq⟩ | ⟨hfloor, heq⟩ | ⟨f, hf, hfloor, heq⟩
  · rw [heq]
    refine ⟨⟨h.ground, rfl, fun depth hdepth => ?_, fun other kept hkept hregion => ?_⟩,
      fun depth _ => .rfl, fun _ => Std.HashMap.getElem?_insert_self⟩
    · exact absurd (hfloor.symm.trans hdepth) (Option.some_ne_none depth).symm
    · rw [Std.HashMap.getElem?_insert] at hkept
      split at hkept
      · rename_i hsame
        rw [← beq_iff_eq.mp hsame] at hregion ⊢
        rw [← Option.some.inj hkept]
        exact hanswer hfloor hregion
      · exact h.kept other kept hkept hregion
  · rw [heq]
    refine ⟨⟨h.ground, rfl, fun depth hdepth => ?_, h.kept⟩, fun depth hdepth => ?_,
      fun hnone => ?_⟩
    · exact absurd hdepth (Option.some_ne_none depth).symm
    · rw [hfloor]
      exact ⟨fun _ => clearBelow_some.mpr hdepth, fun _ => clearBelow_none depth⟩
    · exact absurd (hnone.symm.trans hfloor) (Option.some_ne_none _).symm
  · rw [heq]
    refine ⟨⟨h.ground, rfl, fun depth hdepth => ?_, h.kept⟩, fun depth _ => .rfl,
      fun hnone => ?_⟩
    · rwa [← Option.some.inj (hfloor.symm.trans hdepth)]
    · exact absurd (hnone.symm.trans hfloor) (Option.some_ne_none _).symm

/-- A key is computed as afresh when exactly the stats were asked for that it asks for afresh. -/
private theorem computed_of_gathered {values : List ν} {answer : Resolved ν} (hkey : key ∉ stack)
    (hlength : stack.length < g.budget) (hasks : ∀ stat ∈ g.asks stack key, region stat)
    (h : Gathered g region (key :: stack) (g.asks stack key) r values r')
    (hanswer : values = (g.asks stack key).map (g.valuesBelow stack key) →
      answer = g.settle key (g.valuesBelow stack key)) :
    Computed g region stack key r answer r' := by
  refine ⟨h.ready, fun _ => ?_, fun _ depth hdepth => ?_⟩
  · rw [Ground.afresh_eq hkey hlength]
    exact hanswer (h.afresh hasks)
  · rw [h.floor hasks depth hdepth]
    simp only [Ground.meets_iff_of_notMem hkey]
    refine and_congr_right fun _ => ⟨?_, ?_⟩
    · rintro hall met hmet ⟨stat, hstat, hmeets⟩
      exact hall stat hstat met hmet hmeets
    · intro hall stat hstat met hmet hmeets
      exact hall met hmet ⟨stat, hstat, hmeets⟩

/-- A key that is not on the stack below it is computed. -/
private theorem exists_compute_on
    {visit : Resolver ν → ResolverKey → Option (Resolved ν × Resolver ν)}
    (hclosed : g.Closed region) (h : r.Ready g Nowhere (key :: stack)) (hkey : key ∉ stack)
    (hlength : stack.length < g.budget)
    (hvisit : ∀ stat, g.Reads key.stat stat → ∀ r : Resolver ν, r.Ready g Nowhere (key :: stack) →
      Activates g region (key :: stack) (g.defaultKey stat) r (visit r (g.defaultKey stat))) :
    ∃ answer r', compute visit r key = some (answer, r') ∧ r.Returns g (key :: stack) r' ∧
      (g.Reached region stack key → r'.Harmless g region → r.Ready g region (key :: stack) →
        Computed g region stack key r answer r') := by
  have hunknowns (stat : String) (hstat : stat ∈ g.unknowns key.stat) : g.Reads key.stat stat :=
    .inl (g.mem_unknowns.mp hstat)
  have hsources (stat : String) (hstat : stat ∈ (g.rules key).map (·.source)) :
      g.Reads key.stat stat := by
    obtain ⟨rule, hrule, hsource⟩ := List.mem_map.mp hstat
    exact Ground.reads_of_mem_rules hrule hsource
  obtain ⟨known, r₁, hknown, hreturns, hgathered⟩ :=
    h.exists_gather region _ fun stat hstat => hvisit stat (hunknowns stat hstat)
  obtain ⟨granted, r₂, hgranted, hreturns', hgathered'⟩ :=
    hreturns.ready.exists_gather region _ fun stat hstat => hvisit stat (hsources stat hstat)
  obtain ⟨answer, r', hcompute, hend, hsettle⟩ :=
    Resolver.exists_compute h.ground hknown hgranted
  have hlater : r₁.Returns g (key :: stack) r' := by
    rcases hend with rfl | rfl
    · exact .refl hreturns.ready
    · exact hreturns'
  refine ⟨answer, r', hcompute, hreturns.trans hlater, fun hreached hharmless hready => ?_⟩
  have hbelow := hgathered
    (fun stat hstat => hreached.ask hkey (hunknowns stat hstat)
      fun _ => Ground.mem_consulted_of_mem_unknowns hstat)
    (hharmless.of_remembers hlater.remembers) hready
  by_cases hregion : region key.stat
  · -- What was found for the conditions is right, so all requests are those that are made afresh.
    obtain ⟨values, hgather, hanswer⟩ := hsettle (g.valuesBelow stack key)
      (hbelow.afresh fun stat hstat => hclosed _ _ hregion (hunknowns stat hstat))
    obtain ⟨values', r'', hgather', -, hasked⟩ :=
      h.exists_gather region (g.asks stack key) fun stat hstat =>
        hvisit stat (Ground.reads_of_mem_consulted hstat)
    obtain ⟨rfl, rfl⟩ := Prod.mk.inj (Option.some.inj (hgather.symm.trans hgather'))
    refine computed_of_gathered hkey hlength (fun stat hstat => ?_)
      (hasked (fun stat hstat => hreached.ask_afresh hkey hstat) hharmless hready) hanswer
    exact hclosed _ _ hregion (Ground.reads_of_mem_consulted hstat)
  · refine ⟨?_, fun h => absurd h hregion, fun h => absurd h hregion⟩
    rcases hend with rfl | rfl
    · exact hbelow.ready
    · refine (hgathered' (fun stat hstat => ?_) hharmless hbelow.ready).ready
      exact hreached.ask hkey (hsources stat hstat) fun h => absurd h hregion

private theorem floor_eq_none_of_clear (h : r.Ready g region stack)
    (hclear : ClearBelow r.floor stack.length) : r.floor = none := by
  cases hfloor : r.floor with
  | none => rfl
  | some f =>
    have hlt := h.floor f hfloor
    have hle := hclear f hfloor
    omega

/-- A kept answer that does no harm is the right one, and met nothing on this stack. -/
private theorem activates_of_kept (h : r.Ready g Nowhere stack) {answer : Resolved ν}
    (hkept : r.cache[key]? = some answer) :
    Activates g region stack key r (some (answer, r)) := by
  refine ⟨answer, r, rfl, .refl h, fun hreached hharmless hready => ?_⟩
  have hnone (hregion : region key.stat) : ∀ met ∈ stack, ¬ g.Meets stack key met := by
    intro met hmet hmeets
    have hmem : key ∈ r.cache :=
      Std.HashMap.mem_iff_isSome_getElem?.mpr (by rw [hkept, Option.isSome_some])
    exact hharmless key hmem hregion (hready.kept key answer hkept hregion).2
      ⟨stack, hreached, met, hmet, hmeets⟩
  refine ⟨hready, fun hregion => ?_, fun hregion depth _ => ?_, fun _ _ _ => hkept⟩
  · rw [(hready.kept key answer hkept hregion).1]
    exact (hreached.afresh_eq_alone (hnone hregion)).symm
  · exact ⟨fun hclear => ⟨hclear, fun met hmet hmeets => absurd hmeets (hnone hregion met hmet)⟩,
      And.left⟩

theorem ready_meetAgain (h : r.Ready g region stack) (hkey : key ∈ stack) :
    (r.meetAgain (depthIn stack key)).Ready g region stack := by
  refine ⟨h.ground, h.onStack, fun depth hdepth => ?_, h.kept⟩
  have hclear : ClearBelow (r.meetAgain (depthIn stack key)).floor depth := by
    rw [hdepth]
    exact clearBelow_some.mpr (Nat.le_refl depth)
  have hle := ((clearBelow_meetAgain r (depthIn stack key) depth).mp hclear).2
  exact Nat.lt_of_le_of_lt hle (depthIn_lt hkey)

/-- A key on the stack meets itself and nothing else. -/
private theorem activates_of_mem (h : r.Ready g Nowhere stack) (hkey : key ∈ stack) :
    Activates g region stack key r
      (some (.nothing key.stat, r.meetAgain (depthIn stack key))) := by
  refine ⟨_, _, rfl, ⟨h.ready_meetAgain hkey, fun _ => id⟩, fun _ _ hready =>
    ⟨hready.ready_meetAgain hkey, fun _ => (Ground.afresh_of_mem hkey).symm,
      fun _ depth _ => ?_, fun _ _ hmeets => ?_⟩⟩
  · rw [clearBelow_meetAgain]
    simp only [Ground.meets_iff_of_mem hkey]
    refine and_congr_right fun _ => ⟨?_, fun hall => hall key hkey rfl⟩
    rintro hle met - rfl
    exact hle
  · exact absurd (.again hkey) (hmeets key List.mem_cons_self)

/-- A key that was computed on top of the stack is taken off it. -/
private theorem visited_of_computed {answer : Resolved ν}
    (hreached : g.Reached region stack key) (hkey : key ∉ stack)
    (h : Computed g region stack key { r with stack := key :: r.stack } answer r') :
    Visited g region stack key r answer (r'.finish key answer) := by
  have hnone (hregion : region key.stat) (hfloor : r'.floor = none) :
      ∀ met ∈ key :: stack, ¬ g.Meets stack key met := by
    intro met hmet hmeets
    have hclear : ClearBelow r'.floor (key :: stack).length := by
      rw [hfloor]
      exact clearBelow_none _
    have hle := ((h.floor hregion _ (Nat.le_refl _)).mp hclear).2 met hmet hmeets
    exact absurd (depthIn_lt hmet) (Nat.not_lt.mpr hle)
  have halone (hnothing : r'.floor = none) (hregion : region key.stat) :
      answer = g.afresh [] key ∧ ¬ g.Meets [] key key := by
    have hbelow : ∀ met ∈ stack, ¬ g.Meets stack key met := fun met hmet =>
      hnone hregion hnothing met (List.mem_cons_of_mem _ hmet)
    refine ⟨(h.afresh hregion).trans (hreached.afresh_eq_alone hbelow), ?_⟩
    exact (hreached.meets_iff_alone hbelow key).not.mp
      (hnone hregion hnothing key List.mem_cons_self)
  obtain ⟨hready, hfloor, hkeeps⟩ := h.ready.finish halone
  refine ⟨hready, h.afresh, fun hregion depth hdepth => ?_,
    fun hregion hclear hmeets => hkeeps ?_⟩
  · rw [hfloor depth hdepth, h.floor hregion depth (Nat.le_succ_of_le hdepth)]
    refine and_congr_right fun _ => ⟨fun hall met hmet hmeets => ?_, fun hall met hmet hmeets => ?_⟩
    · have hle := hall met (List.mem_cons_of_mem _ hmet) hmeets
      rwa [depthIn_cons_of_mem hmet] at hle
    · -- The key itself is as deep as the mark can be.
      rcases List.mem_cons.mp hmet with rfl | hmet
      · rwa [depthIn_cons_self hkey]
      · rw [depthIn_cons_of_mem hmet]
        exact hall met hmet hmeets
  · refine h.ready.floor_eq_none_of_clear ((h.floor hregion _ (Nat.le_refl _)).mpr ⟨?_, ?_⟩)
    · rw [hclear]
      exact clearBelow_none _
    · exact fun met hmet hmet' => absurd hmet' (hmeets met hmet)

/-- A key that is not on the stack is computed on top of it. -/
private theorem activates_of_notMem
    {visit : Resolver ν → ResolverKey → Option (Resolved ν × Resolver ν)}
    (hclosed : g.Closed region) (h : r.Ready g Nowhere stack) (hkey : key ∉ stack)
    (hlength : stack.length < g.budget)
    (hvisit : ∀ stat, g.Reads key.stat stat → ∀ r : Resolver ν, r.Ready g Nowhere (key :: stack) →
      Activates g region (key :: stack) (g.defaultKey stat) r (visit r (g.defaultKey stat))) :
    Activates g region stack key r
      ((compute visit { r with stack := key :: r.stack } key).map fun result =>
        (result.1, result.2.finish key result.1)) := by
  obtain ⟨answer, r', hcompute, hreturns, hcomputed⟩ :=
    (h.push key).exists_compute_on hclosed hkey hlength hvisit
  have hready : (r'.finish key answer).Ready g Nowhere stack :=
    (hreturns.ready.finish fun _ => False.elim).1
  have hremembers (other : ResolverKey) (hother : other ∈ r'.cache) :
      other ∈ (r'.finish key answer).cache := mem_cache_finish hother key answer
  refine ⟨answer, r'.finish key answer, by rw [hcompute, Option.map_some],
    ⟨hready, fun other hother => hremembers other (hreturns.remembers other hother)⟩,
    fun hreached hharmless hready => ?_⟩
  exact visited_of_computed hreached hkey
    (hcomputed hreached (hharmless.of_remembers hremembers) (hready.push key))

/-- Every activation comes to an end within the budget and does what it should. -/
theorem activates_visit (hclosed : g.Closed region) (h : r.Ready g Nowhere stack)
    (hreached : g.Reached Nowhere stack key) :
    Activates g region stack key r (visit? (g.budget - stack.length) r key) := by
  -- The induction is on what is left of the budget.
  induction hbound : g.budget - stack.length generalizing stack key r with
  | zero =>
    cases hkept : r.cache[key]? with
    | some answer =>
      rw [visit?_of_kept hkept]
      exact h.activates_of_kept hkept
    | none =>
      have hkey : key ∈ stack := by
        by_contra hkey
        have hlt := hreached.length_lt_budget hkey
        omega
      rw [visit?_of_mem hkept (h.onStack ▸ hkey), h.onStack]
      exact h.activates_of_mem hkey
  | succ bound ih =>
    cases hkept : r.cache[key]? with
    | some answer =>
      rw [visit?_of_kept hkept]
      exact h.activates_of_kept hkept
    | none =>
      by_cases hkey : key ∈ stack
      · rw [visit?_of_mem hkept (h.onStack ▸ hkey), h.onStack]
        exact h.activates_of_mem hkey
      · rw [visit?_of_notMem hkept (h.onStack ▸ hkey)]
        refine h.activates_of_notMem hclosed hkey (hreached.length_lt_budget hkey)
          fun stat hreads r' hr' => ih hr' (hreached.ask hkey hreads False.elim) ?_
        rw [List.length_cons]
        omega

end Ready

end Resolver

end Loadout
