import Mathlib.Data.List.Basic
import Loadout.Resolution.Resolver

/-!
# What a stat resolves to, given the values of others

Resolving a stat asks for the values of other stats and then computes without asking. Which
stats are asked for depends on their values: where an override applies no attribute is asked
for. What is computed depends only on the values of the stats that were asked for.

## Main definitions

* `Ground`: what a resolver resolves against
* `Ground.Reads`: one stat may ask for another
* `Ground.settle`: what a key resolves to, given the values of all stats
* `Ground.consulted`: the stats that are asked for on the way

## Main results

* `Ground.settle_congr`, `Ground.consulted_congr`: other stats do not matter
* `Ground.reads_of_mem_consulted`: only stats that may be asked for are
* `Resolver.compute_eq_settle`: computing a key settles it
-/

namespace Loadout

variable {ν : Type}

/-- What a resolver resolves against. -/
structure Ground (ν : Type) where
  store : Store ν
  /-- The situation that a call's flags are put into. -/
  defaults : Context ν

/-- The store and the default situation of a resolver. -/
def Resolver.ground (r : Resolver ν) : Ground ν :=
  ⟨r.store, r.defaults⟩

namespace Ground

variable (g : Ground ν)

/-- The key of a stat under the default flags. -/
def defaultKey (stat : String) : ResolverKey :=
  ⟨stat, g.defaults.flags, g.defaults.keywords⟩

/-- The situation of a key before the stats it depends on are known. -/
def situation (key : ResolverKey) : Context ν :=
  { g.defaults with flags := key.flags, keywords := key.keywords }

/-- The stats that conditions on a stat's modifiers read and that are not pinned, each once. -/
def unknowns (stat : String) : List String :=
  Resolver.unknowns g.store stat g.defaults

/-- A condition on a modifier of a stat reads another stat that is not pinned. -/
def ReadsByCondition (stat other : String) : Prop :=
  ∃ m ∈ g.store.on stat, m.condition.bind Condition.stat? = some other ∧
    other ∉ g.defaults.stats

/-- The unknowns found so far, with the one that a modifier's condition reads, if it is new. -/
private def addUnknown (ctx : Context ν) (found : List String) (m : Modifier ν) : List String :=
  match m.condition.bind Condition.stat? with
  | some dep => if ctx.stats.contains dep || found.contains dep then found else found ++ [dep]
  | none => found

private theorem mem_addUnknown (ctx : Context ν) (found : List String) (m : Modifier ν)
    (other : String) :
    other ∈ addUnknown ctx found m ↔
      other ∈ found ∨ (m.condition.bind Condition.stat? = some other ∧ other ∉ ctx.stats) := by
  unfold addUnknown
  cases m.condition.bind Condition.stat? with
  | none => simp
  | some dep =>
    by_cases hskip : dep ∈ ctx.stats ∨ dep ∈ found
    · have hif : (ctx.stats.contains dep || found.contains dep) = true := by
        rw [Bool.or_eq_true, Std.ExtTreeMap.contains_iff_mem, List.contains_iff_mem]
        exact hskip
      simp only [hif, if_true, Option.some.injEq]
      refine ⟨.inl, ?_⟩
      rintro (h | ⟨rfl, hnot⟩)
      · exact h
      · exact hskip.resolve_left hnot
    · have hif : ¬ (ctx.stats.contains dep || found.contains dep) = true := by
        rw [Bool.or_eq_true, Std.ExtTreeMap.contains_iff_mem, List.contains_iff_mem]
        exact hskip
      simp only [if_neg hif, List.mem_append, List.mem_singleton, Option.some.injEq]
      refine or_congr_right ⟨?_, fun h => h.1.symm⟩
      rintro rfl
      exact ⟨rfl, fun h => hskip (.inl h)⟩

theorem mem_unknowns {stat other : String} :
    other ∈ g.unknowns stat ↔ g.ReadsByCondition stat other := by
  have hfold (ms : List (Modifier ν)) (found : List String) :
      other ∈ ms.foldl (addUnknown g.defaults) found ↔ other ∈ found ∨
        ∃ m ∈ ms, m.condition.bind Condition.stat? = some other ∧
          other ∉ g.defaults.stats := by
    induction ms generalizing found with
    | nil => simp only [List.foldl_nil, List.not_mem_nil, false_and, exists_false, or_false]
    | cons m ms ih =>
      rw [List.foldl_cons, ih, mem_addUnknown, or_assoc]
      simp only [List.mem_cons, exists_eq_or_imp]
  exact (hfold (g.store.on stat) []).trans (or_iff_right List.not_mem_nil)

/-- The situation of a key in which the stats that its conditions read have certain values. -/
def known (key : ResolverKey) (value : String → ν) : Context ν :=
  (g.unknowns key.stat).foldl (fun ctx stat => ctx.setStat stat (value stat)) (g.situation key)

variable {g}

theorem known_congr {key : ResolverKey} {value value' : String → ν}
    (h : ∀ stat ∈ g.unknowns key.stat, value stat = value' stat) :
    g.known key value = g.known key value' := by
  refine List.foldl_ext _ _ _ fun ctx stat hstat => ?_
  rw [h stat hstat]

/-- Values are put into a situation one by one, and of several for a stat the last counts. -/
private theorem stat?_foldl_setStat (value : String → ν) (stats : List String)
    (ctx : Context ν) (other : String) :
    (stats.foldl (fun ctx stat => ctx.setStat stat (value stat)) ctx).stat? other =
      if other ∈ stats then some (value other) else ctx.stat? other := by
  induction stats generalizing ctx with
  | nil => rfl
  | cons stat stats ih =>
    rw [List.foldl_cons, ih, Context.stat?_setStat]
    by_cases hmem : other ∈ stats
    · simp only [hmem, List.mem_cons, or_true, if_true]
    · by_cases hstat : stat = other
      · simp only [hmem, hstat, List.mem_cons, true_or, if_true, if_false]
      · simp only [hmem, hstat, Ne.symm hstat, List.mem_cons, or_self, if_false]

theorem stat?_known (key : ResolverKey) (value : String → ν) (other : String) :
    (g.known key value).stat? other =
      if other ∈ g.unknowns key.stat then some (value other) else g.defaults.stat? other :=
  stat?_foldl_setStat value _ _ other

theorem rest_foldl_setStat (entries : List (String × ν)) (ctx : Context ν)
    (stats : Std.ExtTreeMap String ν) :
    { entries.foldl (fun ctx entry => ctx.setStat entry.1 entry.2) ctx with stats } =
      { ctx with stats } := by
  induction entries generalizing ctx with
  | nil => rfl
  | cons entry entries ih => rw [List.foldl_cons, ih]; rfl

theorem known_rest (key : ResolverKey) (value : String → ν) :
    { g.known key value with stats := g.defaults.stats } = g.situation key := by
  have hrest := rest_foldl_setStat ((g.unknowns key.stat).map fun stat => (stat, value stat))
    (g.situation key) g.defaults.stats
  rw [List.foldl_map] at hrest
  exact hrest

variable [Scalar ν] (g)

/-- One stat may ask for another: a condition reads it, or it is an attribute that feeds the
stat. -/
def Reads (stat other : String) : Prop :=
  g.ReadsByCondition stat other ∨
    ∃ rule ∈ (AttributeRule.all : List (AttributeRule ν)), rule.target = stat ∧ rule.source = other

/-- The rules that feed a key. -/
def rules (_ : Ground ν) (key : ResolverKey) : List (AttributeRule ν) :=
  (AttributeRule.feeding key.stat).filter fun rule => rule.flags.appliesTo key.flags

/-- What a key resolves to when every stat has a certain value. -/
def settle (key : ResolverKey) (value : String → ν) : Resolved ν :=
  let ctx := g.known key value
  match Resolved.overridden? g.store key.stat ctx with
  | some answer => answer
  | none =>
    Resolved.combined g.store key.stat ctx ((g.rules key).map fun rule => (rule, value rule.source))

/-- The stats that are asked for when every stat has a certain value. -/
def consulted (key : ResolverKey) (value : String → ν) : List String :=
  g.unknowns key.stat ++
    match Resolved.overridden? g.store key.stat (g.known key value) with
    | some _ => []
    | none => (g.rules key).map (·.source)

variable {g}

theorem mem_consulted_of_mem_unknowns {key : ResolverKey} {value : String → ν} {stat : String}
    (h : stat ∈ g.unknowns key.stat) : stat ∈ g.consulted key value :=
  List.mem_append_left _ h

theorem mem_consulted_of_mem_rules {key : ResolverKey} {value : String → ν}
    (hover : Resolved.overridden? g.store key.stat (g.known key value) = none)
    {rule : AttributeRule ν} (h : rule ∈ g.rules key) : rule.source ∈ g.consulted key value := by
  rw [consulted, hover]
  exact List.mem_append_right _ (List.mem_map_of_mem h)

theorem reads_of_mem_rules {key : ResolverKey} {rule : AttributeRule ν}
    {stat : String} (hrule : rule ∈ g.rules key) (hsource : rule.source = stat) :
    g.Reads key.stat stat := by
  obtain ⟨hall, htarget⟩ := List.mem_filter.mp (List.mem_filter.mp hrule).1
  exact .inr ⟨rule, hall, beq_iff_eq.mp htarget, hsource⟩

/-- Attributes grant bases and increases. -/
theorem kind_of_mem_rules {key : ResolverKey} {rule : AttributeRule ν} (h : rule ∈ g.rules key) :
    rule.kind = .base ∨ rule.kind = .increased := by
  have hkinds : ∀ rule ∈ (AttributeRule.all : List (AttributeRule ν)),
      rule.kind = .base ∨ rule.kind = .increased := by
    simp only [AttributeRule.all, List.forall_mem_cons, List.not_mem_nil, false_imp_iff,
      implies_true, reduceCtorEq, or_false, false_or, and_self]
  exact hkinds rule (List.mem_filter.mp (List.mem_filter.mp h).1).1

/-- Only stats that may be asked for are asked for. -/
theorem reads_of_mem_consulted {key : ResolverKey} {value : String → ν} {stat : String}
    (h : stat ∈ g.consulted key value) : g.Reads key.stat stat := by
  rw [consulted, List.mem_append] at h
  rcases h with h | h
  · exact .inl (g.mem_unknowns.mp h)
  · cases hover : Resolved.overridden? g.store key.stat (g.known key value) with
    | some answer =>
      rw [hover] at h
      exact absurd h List.not_mem_nil
    | none =>
      rw [hover] at h
      obtain ⟨rule, hrule, hsource⟩ := List.mem_map.mp h
      exact reads_of_mem_rules hrule hsource

private theorem known_congr_of_consulted {key : ResolverKey} {value value' : String → ν}
    (h : ∀ stat ∈ g.consulted key value, value stat = value' stat) :
    g.known key value = g.known key value' :=
  known_congr fun stat hstat => h stat (mem_consulted_of_mem_unknowns hstat)

/-- What a key resolves to depends on the values of the stats that are asked for alone. -/
theorem settle_congr {key : ResolverKey} {value value' : String → ν}
    (h : ∀ stat ∈ g.consulted key value, value stat = value' stat) :
    g.settle key value = g.settle key value' := by
  unfold settle
  rw [← known_congr_of_consulted h]
  dsimp only
  cases hover : Resolved.overridden? g.store key.stat (g.known key value) with
  | some answer => rfl
  | none =>
    have hrules : (g.rules key).map (fun rule => (rule, value rule.source)) =
        (g.rules key).map fun rule => (rule, value' rule.source) :=
      List.map_congr_left fun rule hrule => by
        rw [h rule.source (mem_consulted_of_mem_rules hover hrule)]
    dsimp only
    rw [hrules]

/-- Which stats are asked for depends on their own values alone. -/
theorem consulted_congr {key : ResolverKey} {value value' : String → ν}
    (h : ∀ stat ∈ g.consulted key value, value stat = value' stat) :
    g.consulted key value = g.consulted key value' := by
  unfold consulted
  rw [← known_congr_of_consulted h]

end Ground

/-! ### Computing a key -/

variable [Scalar ν]

namespace Resolver

variable {visit : Resolver ν → ResolverKey → Option (Resolved ν × Resolver ν)}
  {r r₁ r₂ : Resolver ν} {key : ResolverKey}

private theorem compute_eq_bind
    (visit : Resolver ν → ResolverKey → Option (Resolved ν × Resolver ν)) (r : Resolver ν)
    (key : ResolverKey) :
    compute visit r key =
      (gather visit (r.ground.unknowns key.stat) r).bind fun gathered =>
        let ctx := ((r.ground.unknowns key.stat).zip gathered.1).foldl
          (fun ctx entry => ctx.setStat entry.1 entry.2) (r.situation key)
        match Resolved.overridden? r.store key.stat ctx with
        | some answer => some (answer, gathered.2)
        | none => (gather visit ((r.ground.rules key).map (·.source)) gathered.2).bind
            fun result => some (Resolved.combined r.store key.stat ctx
              ((r.ground.rules key).zip result.1), result.2) :=
  rfl

omit [Scalar ν] in
private theorem length_of_gather {stats : List String} {values : List ν}
    (h : gather visit stats r = some (values, r₁)) : values.length = stats.length := by
  induction stats generalizing r values with
  | nil =>
    cases h
    rfl
  | cons stat stats ih =>
    simp only [gather, Option.bind_eq_bind, Option.bind_eq_some_iff, Prod.exists] at h
    obtain ⟨answer, r₂, -, rest, r₃, hrest, hvalues⟩ := h
    cases hvalues
    rw [List.length_cons, ih hrest, List.length_cons]

omit [Scalar ν] in
private theorem gather_append (visit : Resolver ν → ResolverKey → Option (Resolved ν × Resolver ν))
    (first second : List String) (r : Resolver ν) :
    gather visit (first ++ second) r =
      (gather visit first r).bind fun gathered =>
        (gather visit second gathered.2).map fun result =>
          (gathered.1 ++ result.1, result.2) := by
  induction first generalizing r with
  | nil => simp only [List.nil_append, gather, Option.bind_some, Option.map_id']
  | cons stat stats ih =>
    simp only [List.cons_append, gather, ih, Option.bind_eq_bind, Option.pure_def,
      Option.bind_assoc, Option.map_eq_bind]
    rfl

omit [Scalar ν] in
private theorem foldl_zip_eq_known (r : Resolver ν) (key : ResolverKey) (value : String → ν) :
    ((r.ground.unknowns key.stat).zip ((r.ground.unknowns key.stat).map value)).foldl
      (fun ctx entry => ctx.setStat entry.1 entry.2) (r.situation key) =
      r.ground.known key value := by
  rw [← List.map_prod_left_eq_zip, List.foldl_map]
  rfl

/-- Computing a key settles it with the values that its requests are answered with, when these are
the stats that are asked for at these values. -/
theorem compute_eq_settle {g : Ground ν} (hg : r.ground = g) {value : String → ν}
    (h : gather visit (g.consulted key value) r = some ((g.consulted key value).map value, r₁)) :
    compute visit r key = some (g.settle key value, r₁) := by
  subst hg
  rw [Ground.consulted] at h
  rw [gather_append, Option.bind_eq_some_iff] at h
  obtain ⟨⟨values, r₂⟩, hunknowns, h⟩ := h
  obtain ⟨⟨sources, r₃⟩, hsources, h⟩ := Option.map_eq_some_iff.mp h
  obtain ⟨hvalues, rfl⟩ := Prod.mk.inj h
  rw [List.map_append] at hvalues
  obtain ⟨rfl, rfl⟩ := List.append_inj hvalues
    (by rw [List.length_map, length_of_gather hunknowns])
  have hstore : r.ground.store = r.store := rfl
  rw [compute_eq_bind, hunknowns, Option.bind_some]
  dsimp only
  rw [foldl_zip_eq_known, Ground.settle]
  cases hover : Resolved.overridden? r.store key.stat (r.ground.known key value) with
  | some answer =>
    simp only [hstore, hover, List.map_nil] at hsources ⊢
    cases hsources
    rfl
  | none =>
    have hzip : (r.ground.rules key).zip (((r.ground.rules key).map (·.source)).map value) =
        (r.ground.rules key).map fun rule => (rule, value rule.source) := by
      rw [List.map_map, ← List.map_prod_left_eq_zip]
      rfl
    simp only [hstore, hover] at hsources ⊢
    simp only [hsources, Option.bind_some, hzip]

/-- Computing a key comes to an end when its requests do: those for the stats that its conditions
read and, unless an override applies, those for the attributes. When the former are answered with
certain values, all requests are for the stats that are asked for at these values, and the key
is settled with them if the latter are answered so too. -/
theorem exists_compute {g : Ground ν} (hg : r.ground = g) {known granted : List ν}
    (hknown : gather visit (g.unknowns key.stat) r = some (known, r₁))
    (hgranted : gather visit ((g.rules key).map (·.source)) r₁ = some (granted, r₂)) :
    ∃ answer r', compute visit r key = some (answer, r') ∧ (r' = r₁ ∨ r' = r₂) ∧
      ∀ value : String → ν, known = (g.unknowns key.stat).map value →
        ∃ values, gather visit (g.consulted key value) r = some (values, r') ∧
          (values = (g.consulted key value).map value → answer = g.settle key value) := by
  subst hg
  have hsettle {answer : Resolved ν} {r' : Resolver ν} {value : String → ν}
      (hcompute : compute visit r key = some (answer, r')) {values : List ν}
      (hgather : gather visit (r.ground.consulted key value) r = some (values, r'))
      (hvalues : values = (r.ground.consulted key value).map value) :
      answer = r.ground.settle key value :=
    (Prod.mk.inj (Option.some.inj
      (hcompute.symm.trans (compute_eq_settle rfl (hvalues ▸ hgather))))).1
  have hstore : r.ground.store = r.store := rfl
  cases hover : Resolved.overridden? r.store key.stat (((r.ground.unknowns key.stat).zip
      known).foldl (fun ctx entry => ctx.setStat entry.1 entry.2) (r.situation key)) with
  | some answer =>
    have hcompute : compute visit r key = some (answer, r₁) := by
      rw [compute_eq_bind, hknown, Option.bind_some]
      dsimp only
      rw [hover]
    refine ⟨answer, r₁, hcompute, .inl rfl, fun value hvalue => ?_⟩
    have hgather : gather visit (r.ground.consulted key value) r = some (known ++ [], r₁) := by
      rw [hvalue, foldl_zip_eq_known] at hover
      rw [Ground.consulted, hstore, hover, gather_append, hknown]
      rfl
    exact ⟨_, hgather, hsettle hcompute hgather⟩
  | none =>
    obtain ⟨answer, hcompute⟩ : ∃ answer, compute visit r key = some (answer, r₂) := by
      rw [compute_eq_bind, hknown, Option.bind_some]
      dsimp only
      rw [hover]
      dsimp only
      rw [hgranted, Option.bind_some]
      exact ⟨_, rfl⟩
    refine ⟨answer, r₂, hcompute, .inr rfl, fun value hvalue => ?_⟩
    have hgather : gather visit (r.ground.consulted key value) r =
        some (known ++ granted, r₂) := by
      rw [hvalue, foldl_zip_eq_known] at hover
      rw [Ground.consulted, hstore, hover, gather_append, hknown, Option.bind_some]
      dsimp only
      rw [hgranted, Option.map_some]
    exact ⟨_, hgather, hsettle hcompute hgather⟩

end Resolver

end Loadout
