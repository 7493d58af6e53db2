import Loadout.Proofs.Resolution.Queries
import Loadout.Proofs.Resolution.Steady
import Loadout.Proofs.Resolution.Traces
import Loadout.Proofs.Store.Index

/-!
# The order of queries

Answers that rest on a zero are not kept, so that an answer does not depend on what was asked
before. The rule looks at the resolution in which an answer is found. It does what it is for as
long as no answer that is kept, and so rested on no zero there, would rest on one inside another
resolution. Steady regions are of this kind. An override can break it, because where it applies
the attributes that feed its stat are not asked for: an answer found under such an override is
kept, although without the override it rests on a zero.

## Main definitions

* `Resolver.Query.Involves`: the stats on which the answer to a query can depend

## Main results

* `Resolver.ask_askAll_eq_ask`: what was asked before does not matter as long as no harmful answer
  is kept
* `Resolver.getElem?_askAll_eq_ask`: what else is asked does not matter to a query as long as no
  harmful answer is kept
* `Resolver.askAll_ne_map_ask`: it matters in a ground that is not steady
-/

namespace Loadout

namespace Resolver

variable {ν : Type} [Scalar ν]

/-- The stats that a query names, and those that they depend on. -/
def Query.Involves (g : Ground ν) (query : Query) (other : String) : Prop :=
  ∃ stat ∈ query.stats, Relation.ReflTransGen g.Reads stat other

theorem Query.closed_involves (g : Ground ν) (query : Query) : g.Closed (query.Involves g) := by
  rintro other read ⟨stat, hstat, hreads⟩ hread
  exact ⟨stat, hstat, hreads.tail hread⟩

/-- Whatever it was asked before, a resolver that had answered nothing yet answers a query as if it
were asked that alone, unless it then keeps, one way or the other, an answer that rests on a zero
elsewhere among the stats that the query involves. -/
theorem ask_askAll_eq_ask {g : Ground ν} {r : Resolver ν}
    (hstart : ∀ region, r.Ready g region []) (earlier : List Query) (query : Query)
    (hrun : ((r.askAll earlier).2.ask query).2.Harmless g (query.Involves g))
    (hfresh : (r.ask query).2.Harmless g (query.Involves g)) :
    ((r.askAll earlier).2.ask query).1 = (r.ask query).1 := by
  have hclosed := query.closed_involves g
  have hnamed : ∀ stat ∈ query.stats, query.Involves g stat := fun stat hstat =>
    ⟨stat, hstat, .refl⟩
  have hearlier := (hstart Nowhere).askAll hclosed earlier
  have hlater := hearlier.returns.ready.ask hclosed query
  obtain ⟨-, -, hanswer⟩ := (hearlier.trans hlater).right hrun (hstart _)
  obtain ⟨-, hanswer'⟩ := ((hstart Nowhere).ask hclosed query).right hfresh (hstart _)
  rw [hanswer hnamed, hanswer' hnamed]

/-- Whatever is asked before and after it, a query is answered as by a resolver that has answered
nothing yet, unless an answer is kept by then, in the run or by the other resolver, that rests on
a zero elsewhere among the stats that the query involves. -/
theorem getElem?_askAll_eq_ask (g : Ground ν) (queries : List Query) (i : Nat) (query : Query)
    (hquery : queries[i]? = some query)
    (hrun : (((ofStore g.store g.defaults).askAll (queries.take i)).2.ask query).2.Harmless g
      (query.Involves g))
    (hfresh : ((ofStore g.store g.defaults).ask query).2.Harmless g (query.Involves g)) :
    ((ofStore g.store g.defaults).askAll queries).1[i]? =
      some ((ofStore g.store g.defaults).ask query).1 := by
  have hstart (region : String → Prop) : (ofStore g.store g.defaults).Ready g region [] :=
    ready_ofStore g.store g.defaults region
  rw [getElem?_askAll _ hquery, ask_askAll_eq_ask hstart (queries.take i) query hrun hfresh]

end Resolver

/-- Armour counts evasion, and evasion grows once there is enough armour. -/
def Ground.circular : Ground Rat where
  store := .ofList [
    { stat := "Armour", kind := .base, value := .number 2,
      condition := some (.multiplier "Evasion" 10 none) },
    { stat := "Evasion", kind := .base, value := .number 30 },
    { stat := "Evasion", kind := .increased, value := .number (1 / 10),
      condition := some (.threshold "Armour" 5 true) }]
  defaults := .empty

theorem Ground.steady_circular (region : String → Prop) : circular.Steady region := by
  intro stat _ m hm hkind
  rw [circular, Store.on_ofList, List.mem_filter] at hm
  obtain ⟨hm, -⟩ := hm
  simp only [List.mem_cons, List.not_mem_nil, or_false] at hm
  rcases hm with rfl | rfl | rfl <;> cases hkind

/-- In the example armour can be asked for after evasion. -/
theorem Resolver.getElem?_askAll_eq_ask_circular :
    let r : Resolver Rat := ofStore Ground.circular.store .empty
    let query : Query := .several ["Armour", "Evasion"]
    ((r.askAll [.value "Evasion"]).2.ask query).2.Harmless Ground.circular
        (query.Involves Ground.circular) ∧
      (r.ask query).2.Harmless Ground.circular (query.Involves Ground.circular) ∧
      (r.askAll [.value "Evasion", query]).1[1]? = some (r.ask query).1 := by
  intro r query
  have hharmless (r : Resolver Rat) :
      r.Harmless Ground.circular (query.Involves Ground.circular) :=
    harmless_of_undisturbed
      ((Ground.steady_circular _).undisturbed (query.closed_involves Ground.circular)) r
  exact ⟨hharmless _, hharmless _, getElem?_askAll_eq_ask Ground.circular
    [.value "Evasion", query] 1 query rfl (hharmless _) (hharmless _)⟩

/-! ### A ground that is not steady -/

namespace Ground

/-- Life is overridden unless the guard is up, the guard is up only while life is low, and strength,
which feeds life, counts only while the guard is up. -/
def unsteady : Ground Rat where
  store := .ofList [
    { stat := "Strength", kind := .base, value := .number 2,
      condition := some (.threshold "Guard" 1 true) },
    { stat := "Guard", kind := .base, value := .number 1,
      condition := some (.threshold "Life" 1 false) },
    { stat := "Life", kind := .override, value := .number 5,
      condition := some (.threshold "Guard" 1 false) }]
  defaults := .empty

theorem guarded_unsteady : unsteady.Guarded := by
  constructor <;> exact ⟨by decide +kernel, by decide +kernel⟩

end Ground

namespace Resolver

open Ground (unsteady guarded_unsteady)

/-- In the example life depends on whether strength was asked for before. -/
theorem askAll_ne_map_ask :
    ((ofStore unsteady.store unsteady.defaults).askAll [.value "Strength", .value "Life"]).1 ≠
      [.value "Strength", .value "Life"].map fun query =>
        ((ofStore unsteady.store unsteady.defaults).ask query).1 := by
  -- Strength is kept as nothing, and life comes to zero then and to one otherwise.
  obtain ⟨answer, hanswer, hstrength⟩ := guarded_unsteady.strength 4
  have hafter := guarded_unsteady.life_after 5 hanswer List.not_mem_nil
    List.not_mem_nil
  have hlife := guarded_unsteady.life 4 List.not_mem_nil List.not_mem_nil
    List.not_mem_nil
  have hall : ((during unsteady ∅ [] none).askAll [.value "Strength", .value "Life"]).1 =
      [.value 0, .value 0] := by
    simp only [askAll, ask, Gives.value_eq (g := unsteady) hstrength,
      Gives.value_eq (g := unsteady) hafter]
  have hfresh : [.value "Strength", .value "Life"].map (fun query =>
      ((during unsteady ∅ [] none).ask query).1) = [.value 0, .value 1] := by
    simp only [List.map_cons, List.map_nil, ask, Gives.value_eq (g := unsteady) hstrength,
      Gives.value_eq (g := unsteady) hlife]
  intro h
  have hsame := hall.symm.trans (h.trans hfresh)
  simp at hsame

end Resolver

end Loadout
