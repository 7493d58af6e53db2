import Loadout.Proofs.Resolution.Visits

/-!
# Asking a resolver one thing after another

Between queries the stack of a resolver is empty, so no mark is left. As long as no kept answer
is harmful, the kept answers are right, and a query about stats of a region is answered as if
nothing were kept. Answers are never forgotten, so what is harmless in the end was harmless all
along.

## Main definitions

* `Resolver.Query`, `Resolver.Answer`: what can be asked, and what is answered
* `Resolver.ask`, `Resolver.askAll`: a query, and queries in turn
* `Resolver.Query.answer`: what a query is answered without kept answers
* `Resolver.Serves`: what a call does

## Main results

* `Resolver.Ready.resolve`: resolving a stat gives and keeps the right answer
* `Resolver.Ready.ask`, `Resolver.Ready.askAll`: queries are answered as without kept answers
-/

namespace Loadout

variable {ν : Type}

/-- The key of a stat under the flags and keywords of a call, where those that are left out are the
default ones. -/
def Ground.keyOf (g : Ground ν) (stat : String) (flags : Option DamageFlags)
    (keywords : Option KeywordFlags) : ResolverKey :=
  ⟨stat, flags.getD g.defaults.flags, keywords.getD g.defaults.keywords⟩

namespace Resolver

/-- What can be asked of a resolver. -/
inductive Query where
  /-- One stat, under certain flags and keywords or the default ones. -/
  | stat (name : String) (flags : Option DamageFlags) (keywords : Option KeywordFlags)
  /-- The value of one stat. -/
  | value (name : String)
  /-- Several stats in turn. -/
  | several (names : List String)

/-- The stats that a query names. -/
def Query.stats : Query → List String
  | stat name _ _ => [name]
  | value name => [name]
  | several names => names

/-- What a query is answered. -/
inductive Answer (ν : Type) where
  | resolved (answer : Resolved ν)
  | value (x : ν)
  | several (answers : List (Resolved ν))

variable [Scalar ν]

/-- The answer to a query, and the resolver afterwards. -/
def ask (r : Resolver ν) : Query → Answer ν × Resolver ν
  | .stat name flags keywords =>
    let (answer, r) := r.resolve name flags keywords
    (.resolved answer, r)
  | .value name =>
    let (x, r) := r.value name
    (.value x, r)
  | .several names =>
    let (answers, r) := r.resolveAll names
    (.several answers, r)

/-- The answers to queries in turn, and the resolver afterwards. -/
def askAll (r : Resolver ν) : List Query → List (Answer ν) × Resolver ν
  | [] => ([], r)
  | query :: rest =>
    let (answer, r) := r.ask query
    let (answers, r) := r.askAll rest
    (answer :: answers, r)

/-- The answer to a query when nothing is kept. -/
def Query.answer (g : Ground ν) : Query → Answer ν
  | stat name flags keywords => .resolved (g.afresh [] (g.keyOf name flags keywords))
  | value name => .value (g.afresh [] (g.defaultKey name)).value
  | several names => .several (names.map fun name => g.afresh [] (g.defaultKey name))

/-- What a call does: nothing is forgotten, and as long as nothing harmful is kept a ready resolver
stays ready and the call is answered as it should be. -/
structure Serves (g : Ground ν) (region : String → Prop) (r r' : Resolver ν) (answered : Prop) :
    Prop where
  returns : r.Returns g [] r'
  right : r'.Harmless g region → r.Ready g region [] → r'.Ready g region [] ∧ answered

variable {g : Ground ν} {region : String → Prop} {r : Resolver ν}

theorem ready_ofStore (store : Store ν) (defaults : Context ν) (region : String → Prop) :
    (ofStore store defaults).Ready ⟨store, defaults⟩ region [] where
  ground := rfl
  onStack := rfl
  floor depth hdepth := absurd hdepth (Option.some_ne_none depth).symm
  kept _ answer hkept := absurd (Std.HashMap.getElem?_empty.symm.trans hkept)
    (Option.some_ne_none answer).symm

namespace Serves

variable {r₁ r₂ : Resolver ν} {answered answered' : Prop}

theorem trans (h : Serves g region r r₁ answered) (h' : Serves g region r₁ r₂ answered') :
    Serves g region r r₂ (answered ∧ answered') := by
  refine ⟨h.returns.trans h'.returns, fun hharmless hready => ?_⟩
  obtain ⟨hready₁, hanswered⟩ :=
    h.right (hharmless.of_remembers h'.returns.remembers) hready
  obtain ⟨hready₂, hanswered'⟩ := h'.right hharmless hready₁
  exact ⟨hready₂, hanswered, hanswered'⟩

theorem mono (h : Serves g region r r₁ answered) (himp : answered → answered') :
    Serves g region r r₁ answered' :=
  ⟨h.returns, fun hharmless hready => (h.right hharmless hready).imp_right himp⟩

end Serves

namespace Ready

theorem floor_eq_none (h : r.Ready g region []) : r.floor = none :=
  Option.eq_none_iff_forall_ne_some.mpr fun depth hdepth =>
    absurd (h.floor depth hdepth) (Nat.not_lt_zero depth)

/-- Resolving a stat between queries. In the region the answer is that to its key when nothing is
kept, and it is kept unless it rests on a zero for its own key. -/
theorem resolve (hclosed : g.Closed region) (h : r.Ready g Nowhere []) (stat : String)
    (flags : Option DamageFlags) (keywords : Option KeywordFlags) :
    Serves g region r (r.resolve stat flags keywords).2 (region stat →
      (r.resolve stat flags keywords).1 = g.afresh [] (g.keyOf stat flags keywords) ∧
      (¬ g.Meets [] (g.keyOf stat flags keywords) (g.keyOf stat flags keywords) →
        (r.resolve stat flags keywords).2.cached? (g.keyOf stat flags keywords) =
          some (r.resolve stat flags keywords).1)) := by
  obtain ⟨answer, r', hvisit, hreturns, hvisited⟩ :=
    h.activates_visit hclosed (.top (g.keyOf stat flags keywords))
  have hresolve : r.resolve stat flags keywords = (answer, r') := by
    have hkey : (⟨stat, flags.getD r.defaults.flags, keywords.getD r.defaults.keywords⟩ :
        ResolverKey) = g.keyOf stat flags keywords := by rw [← h.ground]; rfl
    have hbudget : r.budget = g.budget := by rw [← h.ground]; rfl
    rw [List.length_nil, Nat.sub_zero] at hvisit
    rw [Resolver.resolve, hkey, hbudget, hvisit, Option.getD_some]
  rw [hresolve]
  refine ⟨hreturns, fun hharmless hready => ?_⟩
  have hright := hvisited (.top _) hharmless hready
  refine ⟨hright.ready, fun hregion => ⟨hright.afresh hregion, fun hmeets => ?_⟩⟩
  refine hright.keeps hregion h.floor_eq_none fun met hmet => ?_
  rw [List.mem_singleton.mp hmet]
  exact hmeets

theorem resolveAll (hclosed : g.Closed region) (h : r.Ready g Nowhere []) (stats : List String) :
    Serves g region r (r.resolveAll stats).2 ((∀ stat ∈ stats, region stat) →
      (r.resolveAll stats).1 = stats.map fun stat => g.afresh [] (g.defaultKey stat)) := by
  induction stats generalizing r with
  | nil => exact ⟨.refl h, fun _ hready => ⟨hready, fun _ => rfl⟩⟩
  | cons stat stats ih =>
    have hfirst := h.resolve hclosed stat none none
    refine (hfirst.trans (ih hfirst.returns.ready)).mono fun ⟨hanswer, hanswers⟩ hregion => ?_
    rw [List.forall_mem_cons] at hregion
    rw [Resolver.resolveAll, List.map_cons, ← hanswers hregion.2]
    exact congrArg (· :: _) (hanswer hregion.1).1

/-- A query that names stats of the region only is answered as it is when nothing is kept. -/
theorem ask (hclosed : g.Closed region) (h : r.Ready g Nowhere []) (query : Query) :
    Serves g region r (r.ask query).2
      ((∀ stat ∈ query.stats, region stat) → (r.ask query).1 = query.answer g) := by
  cases query with
  | stat name flags keywords =>
    refine (h.resolve hclosed name flags keywords).mono fun hanswer hregion => ?_
    exact congrArg Answer.resolved (hanswer (hregion name List.mem_cons_self)).1
  | value name =>
    refine (h.resolve hclosed name none none).mono fun hanswer hregion => ?_
    exact congrArg (fun answer => Answer.value answer.value)
      (hanswer (hregion name List.mem_cons_self)).1
  | several names =>
    exact (h.resolveAll hclosed names).mono fun hanswers hregion =>
      congrArg Answer.several (hanswers hregion)

/-- Queries in turn. -/
theorem askAll (hclosed : g.Closed region) (h : r.Ready g Nowhere []) (queries : List Query) :
    Serves g region r (r.askAll queries).2 True := by
  induction queries generalizing r with
  | nil => exact ⟨.refl h, fun _ hready => ⟨hready, trivial⟩⟩
  | cons query queries ih =>
    have hfirst := h.ask hclosed query
    exact (hfirst.trans (ih hfirst.returns.ready)).mono fun _ => trivial

end Ready

/-- The answer in the middle of a run is given by the resolver that has answered the queries
before. -/
theorem getElem?_askAll (r : Resolver ν) {queries : List Query} {i : Nat} {query : Query}
    (h : queries[i]? = some query) :
    (r.askAll queries).1[i]? = some (((r.askAll (queries.take i)).2.ask query).1) := by
  induction queries generalizing r i with
  | nil => exact absurd h (Option.some_ne_none query).symm
  | cons first rest ih =>
    cases i with
    | zero =>
      obtain rfl := Option.some.inj h
      rfl
    | succ i => exact ih (r.ask first).2 h

end Resolver

end Loadout
