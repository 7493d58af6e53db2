import Loadout.Proofs.Resolution.Visits

/-!
# The requests of a computation

While a key is computed other stats are asked for one after the other, each on the resolver as it
is by then: the stats that conditions read and, where no override applies, the attributes.
Computing a key depends on the answers to these requests alone. So an activation that comes to an
end within a budget comes to the same end within any larger one.

## Main definitions

* `Resolver.Asks`, `Resolver.Requests`: which stat is asked for on which resolver
* `Resolver.Along`: what is passed on from one answer to the next
* `Resolver.informed`: the situation in which a key is computed

## Main results

* `Resolver.compute_eq_some_iff`: how a computation comes to an end
* `Resolver.compute_congr`: a computation makes no other requests
* `Resolver.Along.compute`, `Resolver.Along.rest`: what is passed on in a computation
* `Resolver.visit?_cases`: how an activation comes to an end
* `Resolver.visit?_mono`: a larger budget changes no answer
-/

namespace Loadout

variable {ν : Type}

namespace Resolver

/-- While stats are asked for in turn, one of them is asked for on a certain resolver. -/
inductive Asks (visit : Resolver ν → ResolverKey → Option (Resolved ν × Resolver ν)) :
    List String → Resolver ν → String → Resolver ν → Prop
  | here {stat : String} {rest : List String} {r : Resolver ν} :
      Asks visit (stat :: rest) r stat r
  | later {first stat : String} {rest : List String} {r r₁ r' : Resolver ν} {answer : Resolved ν}
      (h : visit r (r.defaultKey first) = some (answer, r₁)) (hrest : Asks visit rest r₁ stat r') :
      Asks visit (first :: rest) r stat r'

/-- The situation of a key in which the stats that its conditions read have the values that were
gathered for them. -/
def informed (r : Resolver ν) (key : ResolverKey) (known : List ν) : Context ν :=
  ((r.ground.unknowns key.stat).zip known).foldl (fun ctx entry => ctx.setStat entry.1 entry.2)
    (r.situation key)

theorem informed_rest (r : Resolver ν) (key : ResolverKey) (known : List ν) :
    { r.informed key known with stats := r.defaults.stats } = r.situation key :=
  Ground.rest_foldl_setStat ((r.ground.unknowns key.stat).zip known) (r.situation key)
    r.defaults.stats

variable [Scalar ν]

/-- While a key is computed, a stat is asked for on a certain resolver: one that a condition reads
or, where no override applies, an attribute. -/
inductive Requests (visit : Resolver ν → ResolverKey → Option (Resolved ν × Resolver ν))
    (r : Resolver ν) (key : ResolverKey) : String → Resolver ν → Prop
  | unknown {stat : String} {r' : Resolver ν}
      (h : Asks visit (r.ground.unknowns key.stat) r stat r') : Requests visit r key stat r'
  | source {stat : String} {r₁ r' : Resolver ν} {known : List ν}
      (hknown : gather visit (r.ground.unknowns key.stat) r = some (known, r₁))
      (hover : Resolved.overridden? r.store key.stat (r.informed key known) = none)
      (h : Asks visit ((r.ground.rules key).map (·.source)) r₁ stat r') :
      Requests visit r key stat r'

variable {visit visit' : Resolver ν → ResolverKey → Option (Resolved ν × Resolver ν)}
  {r r' : Resolver ν} {key : ResolverKey} {stat : String} {stats : List String}

omit [Scalar ν] in
theorem Asks.mem (h : Asks visit stats r stat r') : stat ∈ stats := by
  induction h with
  | here => exact List.mem_cons_self
  | later _ _ ih => exact List.mem_cons_of_mem _ ih

theorem Requests.reads (h : Requests visit r key stat r') : r.ground.Reads key.stat stat := by
  cases h with
  | unknown h => exact .inl (r.ground.mem_unknowns.mp h.mem)
  | source _ _ h =>
    obtain ⟨rule, hrule, hsource⟩ := List.mem_map.mp h.mem
    exact Ground.reads_of_mem_rules hrule hsource

omit [Scalar ν] in
theorem gather_cons_eq_some_iff {first : String} {values : List ν} :
    gather visit (first :: stats) r = some (values, r') ↔
      ∃ answer r₁ rest, visit r (r.defaultKey first) = some (answer, r₁) ∧
        gather visit stats r₁ = some (rest, r') ∧ values = answer.value :: rest := by
  simp only [gather, Option.bind_eq_bind, Option.bind_eq_some_iff, Option.pure_def, Prod.exists,
    Option.some.injEq, Prod.mk.injEq]
  constructor
  · rintro ⟨answer, r₁, hfirst, rest, r₂, hrest, rfl, rfl⟩
    exact ⟨answer, r₁, rest, hfirst, hrest, rfl⟩
  · rintro ⟨answer, r₁, rest, hfirst, hrest, rfl⟩
    exact ⟨answer, r₁, hfirst, rest, r', hrest, rfl, rfl⟩

/-- A key is computed in the situation in which the stats that its conditions read have the values
that were gathered for them. -/
theorem compute_eq_informed
    (visit : Resolver ν → ResolverKey → Option (Resolved ν × Resolver ν)) (r : Resolver ν)
    (key : ResolverKey) :
    compute visit r key =
      (gather visit (r.ground.unknowns key.stat) r).bind fun gathered =>
        match Resolved.overridden? r.store key.stat (r.informed key gathered.1) with
        | some answer => some (answer, gathered.2)
        | none => (gather visit ((r.ground.rules key).map (·.source)) gathered.2).map fun result =>
            (Resolved.combined r.store key.stat (r.informed key gathered.1)
              ((r.ground.rules key).zip result.1), result.2) := by
  simp only [Option.map_eq_bind]
  rfl

/-- A key is computed when the stats that its conditions read were gathered, and either an override
applies or the attributes were gathered too. -/
theorem compute_eq_some_iff {answer : Resolved ν} :
    compute visit r key = some (answer, r') ↔
      ∃ known r₁, gather visit (r.ground.unknowns key.stat) r = some (known, r₁) ∧
        ((Resolved.overridden? r.store key.stat (r.informed key known) = some answer ∧ r' = r₁) ∨
          (Resolved.overridden? r.store key.stat (r.informed key known) = none ∧
            ∃ granted, gather visit ((r.ground.rules key).map (·.source)) r₁ = some (granted, r') ∧
              answer = Resolved.combined r.store key.stat (r.informed key known)
                ((r.ground.rules key).zip granted))) := by
  rw [compute_eq_informed, Option.bind_eq_some_iff, Prod.exists]
  refine exists₂_congr fun known r₁ => and_congr_right fun _ => ?_
  cases Resolved.overridden? r.store key.stat (r.informed key known) with
  | some overriding =>
    simp only [Option.some.injEq, Prod.mk.injEq, reduceCtorEq, false_and, or_false,
      eq_comm (a := r₁)]
  | none =>
    simp only [Option.map_eq_some_iff, Prod.exists, Prod.mk.injEq, reduceCtorEq, false_and,
      true_and, false_or]
    constructor
    · rintro ⟨granted, r₂, hgranted, rfl, rfl⟩
      exact ⟨granted, hgranted, rfl⟩
    · rintro ⟨granted, hgranted, rfl⟩
      exact ⟨granted, r', hgranted, rfl, rfl⟩

omit [Scalar ν] in
private theorem gather_congr (h : ∀ stat r', Asks visit stats r stat r' →
    visit' r' (r'.defaultKey stat) = visit r' (r'.defaultKey stat)) :
    gather visit' stats r = gather visit stats r := by
  induction stats generalizing r with
  | nil => rfl
  | cons first rest ih =>
    simp only [gather]
    rw [h first r .here]
    cases hfirst : visit r (r.defaultKey first) with
    | none => rfl
    | some result =>
      have hrest : gather visit' rest result.2 = gather visit rest result.2 :=
        ih fun stat r' hasks => h stat r' (.later hfirst hasks)
      simp only [Option.bind_eq_bind, Option.bind_some, hrest]

/-- What a key is computed to depends on the answers to its requests alone: there are no others. -/
theorem compute_congr (h : ∀ stat r', Requests visit r key stat r' →
    visit' r' (r'.defaultKey stat) = visit r' (r'.defaultKey stat)) :
    compute visit' r key = compute visit r key := by
  rw [compute_eq_informed, compute_eq_informed,
    gather_congr fun stat r' hasks => h stat r' (.unknown hasks)]
  refine Option.bind_congr fun gathered hgathered => ?_
  split
  · rfl
  · rename_i hover
    rw [gather_congr fun stat r' hasks => h stat r' (.source hgathered hover hasks)]

omit [Scalar ν] in
/-- When stats were gathered, each was answered, and the rest was gathered after it. -/
theorem Asks.answered {r₁ : Resolver ν} {values : List ν} (h : Asks visit stats r stat r₁)
    (hgather : gather visit stats r = some (values, r')) :
    ∃ answer r₂, visit r₁ (r₁.defaultKey stat) = some (answer, r₂) ∧
      ∃ rest values', gather visit rest r₂ = some (values', r') := by
  induction h generalizing values with
  | here =>
    obtain ⟨answer, r₂, rest, hfirst, hrest, -⟩ := gather_cons_eq_some_iff.mp hgather
    exact ⟨answer, r₂, hfirst, _, rest, hrest⟩
  | later hfirst _ ih =>
    obtain ⟨answer, r₂, rest, hfirst', hrest, -⟩ := gather_cons_eq_some_iff.mp hgather
    obtain ⟨-, rfl⟩ := Prod.mk.inj (Option.some.inj (hfirst.symm.trans hfirst'))
    exact ih hrest

/-! ### From one answer to the next -/

omit [Scalar ν] in
/-- Something that leads from every resolver to itself, from the resolver on which a key is asked
for to the one that is left with the answer, and on along answers in turn. -/
structure Along (visit : Resolver ν → ResolverKey → Option (Resolved ν × Resolver ν))
    (leads : Resolver ν → Resolver ν → Prop) : Prop where
  refl (r : Resolver ν) : leads r r
  trans {r r₁ r₂ : Resolver ν} (h : leads r r₁) (h' : leads r₁ r₂) : leads r r₂
  answered {r r' : Resolver ν} {key : ResolverKey} {answer : Resolved ν}
    (h : visit r key = some (answer, r')) : leads r r'

namespace Along

variable {leads : Resolver ν → Resolver ν → Prop} {r₁ : Resolver ν} {answer : Resolved ν}

omit [Scalar ν] in
theorem gather (h : Along visit leads) {values : List ν}
    (hgather : gather visit stats r = some (values, r')) : leads r r' := by
  induction stats generalizing r values with
  | nil =>
    cases hgather
    exact h.refl _
  | cons first rest ih =>
    obtain ⟨answer, r₁, values', hfirst, hrest, -⟩ := gather_cons_eq_some_iff.mp hgather
    exact h.trans (h.answered hfirst) (ih hrest)

omit [Scalar ν] in
private theorem asks (h : Along visit leads) (hasks : Asks visit stats r stat r') : leads r r' := by
  induction hasks with
  | here => exact h.refl _
  | later hfirst _ ih => exact h.trans (h.answered hfirst) ih

theorem requests (h : Along visit leads) (hrequests : Requests visit r key stat r') :
    leads r r' := by
  cases hrequests with
  | unknown hasks => exact h.asks hasks
  | source hknown _ hasks => exact h.trans (h.gather hknown) (h.asks hasks)

/-- It leads from the beginning of a computation to its end. -/
theorem compute (h : Along visit leads) (hcompute : compute visit r key = some (answer, r')) :
    leads r r' := by
  obtain ⟨known, r₁, hknown, hend⟩ := compute_eq_some_iff.mp hcompute
  obtain ⟨-, rfl⟩ | ⟨-, granted, hgranted, -⟩ := hend
  · exact h.gather hknown
  · exact h.trans (h.gather hknown) (h.gather hgranted)

/-- Every request of a computation is answered, and it leads from there to the end. -/
theorem rest (h : Along visit leads) (hcompute : Resolver.compute visit r key = some (answer, r'))
    (hrequests : Requests visit r key stat r₁) :
    ∃ answer' r₂, visit r₁ (r₁.defaultKey stat) = some (answer', r₂) ∧ leads r₂ r' := by
  obtain ⟨known, r₂, hknown, hend⟩ := compute_eq_some_iff.mp hcompute
  cases hrequests with
  | unknown hasks =>
    obtain ⟨answer', r₃, hanswer, others, values, hrest⟩ := hasks.answered hknown
    refine ⟨answer', r₃, hanswer, ?_⟩
    obtain ⟨-, rfl⟩ | ⟨-, granted, hgranted, -⟩ := hend
    · exact h.gather hrest
    · exact h.trans (h.gather hrest) (h.gather hgranted)
  | source hknown' hover hasks =>
    obtain ⟨rfl, rfl⟩ := Prod.mk.inj (Option.some.inj (hknown.symm.trans hknown'))
    obtain ⟨hover', -⟩ | ⟨-, granted, hgranted, -⟩ := hend
    · exact absurd (hover.symm.trans hover') (Option.some_ne_none _).symm
    · obtain ⟨answer', r₃, hanswer, others, values, hrest⟩ := hasks.answered hgranted
      exact ⟨answer', r₃, hanswer, h.gather hrest⟩

end Along

theorem Requests.answered {r₁ : Resolver ν} {answer : Resolved ν}
    (h : Requests visit r key stat r₁) (hcompute : compute visit r key = some (answer, r')) :
    ∃ answer' r₂, visit r₁ (r₁.defaultKey stat) = some (answer', r₂) := by
  have halong : Along visit fun _ _ => True :=
    ⟨fun _ => trivial, fun _ _ => trivial, fun _ => trivial⟩
  obtain ⟨answer', r₂, hanswer, -⟩ := halong.rest hcompute h
  exact ⟨answer', r₂, hanswer⟩

/-! ### Activations -/

/-- The three ways in which an activation comes to an end: its answer was kept, its key stands on
the stack, or it is computed. -/
theorem visit?_cases {bound : Nat} {answer : Resolved ν}
    (h : visit? bound r key = some (answer, r')) :
    (r.cache[key]? = some answer ∧ r' = r) ∨
      (r.cache[key]? = none ∧ key ∈ r.stack ∧ answer = .nothing key.stat ∧
        r' = r.meetAgain (depthIn r.stack key)) ∨
      (r.cache[key]? = none ∧ key ∉ r.stack ∧ ∃ n r₁, bound = n + 1 ∧
        compute (visit? n) { r with stack := key :: r.stack } key = some (answer, r₁) ∧
        r' = r₁.finish key answer) := by
  cases hkept : r.cache[key]? with
  | some kept =>
    rw [visit?_of_kept hkept] at h
    obtain ⟨rfl, rfl⟩ := Prod.mk.inj (Option.some.inj h)
    exact .inl ⟨rfl, rfl⟩
  | none =>
    by_cases hkey : key ∈ r.stack
    · rw [visit?_of_mem hkept hkey] at h
      obtain ⟨rfl, rfl⟩ := Prod.mk.inj (Option.some.inj h)
      exact .inr (.inl ⟨rfl, hkey, rfl, rfl⟩)
    · cases bound with
      | zero =>
        unfold visit? at h
        simp only [hkept, depth?_of_notMem hkey, reduceCtorEq] at h
      | succ n =>
        rw [visit?_of_notMem hkept hkey] at h
        obtain ⟨⟨computed, r₁⟩, hcompute, hend⟩ := Option.map_eq_some_iff.mp h
        obtain ⟨rfl, rfl⟩ := Prod.mk.inj hend
        exact .inr (.inr ⟨rfl, hkey, n, r₁, rfl, hcompute, rfl⟩)

/-- An activation that comes to an end within a budget does the same within any larger one. -/
theorem visit?_mono {bound larger : Nat} {result : Resolved ν × Resolver ν}
    (h : visit? bound r key = some result) (hle : bound ≤ larger) :
    visit? larger r key = some result := by
  induction bound using Nat.strongRecOn generalizing larger r key result with
  | ind bound ih =>
    obtain ⟨answer, r'⟩ := result
    obtain ⟨hkept, rfl⟩ | ⟨hkept, hkey, rfl, rfl⟩ | ⟨hkept, hkey, n, r₁, rfl, hcompute, rfl⟩ :=
      visit?_cases h
    · exact visit?_of_kept hkept larger
    · exact visit?_of_mem hkept hkey larger
    · -- All requests were answered, and by induction they are answered alike.
      obtain ⟨m, rfl⟩ : ∃ m, larger = m + 1 := ⟨larger - 1, by omega⟩
      have hsame : compute (visit? m) { r with stack := key :: r.stack } key =
          compute (visit? n) { r with stack := key :: r.stack } key := by
        refine compute_congr fun stat r' hrequests => ?_
        obtain ⟨answer', r₂, hanswer⟩ := hrequests.answered hcompute
        rw [hanswer]
        exact ih n (Nat.lt_succ_self n) hanswer (Nat.le_of_succ_le_succ hle)
      rw [visit?_of_notMem hkept hkey, hsame, hcompute, Option.map_some]

end Resolver

end Loadout
