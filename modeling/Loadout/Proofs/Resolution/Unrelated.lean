import Loadout.Proofs.Resolution.Calls
import Loadout.Proofs.Resolution.Order
import Loadout.Proofs.Resolution.Unseen

/-!
# Modifiers of unrelated stats

Resolving a stat gets to the stats that it reads, to those that they read, and so on. Another store
that has the same modifiers on these stats, whatever it has on others and wherever in the store they
stand, is not seen: the answer is the same, with the same contributions in the same order. This is
so for stats that depend on themselves as well, because the zeros that stand in for them come from
the stack, which holds the same keys in both runs.

The budgets of the two stores may differ, but no resolution uses its budget up.

## Main results

* `Resolver.AtRest.resolve_replaceStore`: another store that agrees on the stats that are got to
  changes no answer
* `Resolver.resolve_ofStore_eq`: new resolvers over two such stores resolve the stat alike
-/

namespace Loadout

variable {ν : Type}

namespace Resolver

theorem finish_replaceStore (r : Resolver ν) (store : Store ν) (key : ResolverKey)
    (answer : Resolved ν) :
    (r.replaceStore store).finish key answer = (r.finish key answer).replaceStore store := by
  cases hfloor : r.floor with
  | none => simp only [finish, replaceStore, hfloor]
  | some f =>
    simp only [finish, replaceStore, hfloor]
    split
    · rfl
    · split <;> rfl

variable [Scalar ν]

/-- Another store with the same modifiers on the stats of a region is not seen from there. -/
theorem unseen_replaceStore {g : Ground ν} {region : String → Prop} (hclosed : g.Closed region)
    {store : Store ν} (hon : ∀ stat, region stat → store.on stat = g.store.on stat) :
    Unseen g region (·.replaceStore store) where
  closed := hclosed
  defaults _ := rfl
  cache _ := rfl
  on hground stat hstat := by
    subst hground
    exact hon stat hstat
  mem_stack _ _ _ := Iff.rfl
  push _ _ := rfl
  meetAgain _ _ _ := rfl
  finish {r key _} _ answer := finish_replaceStore r store key answer

variable {r : Resolver ν} {stat : String}

/-- Between calls, another store that has the same modifiers on every stat that resolving a stat can
get to changes neither its answer nor what is kept. -/
theorem AtRest.resolve_replaceStore (h : r.AtRest) {store : Store ν}
    (hon : ∀ other, Relation.ReflTransGen r.ground.Reads stat other →
      store.on other = r.store.on other)
    (flags : Option DamageFlags) (keywords : Option KeywordFlags) :
    (r.replaceStore store).resolve stat flags keywords =
      ((r.resolve stat flags keywords).1,
        (r.resolve stat flags keywords).2.replaceStore store) := by
  have hunseen : Unseen r.ground (Relation.ReflTransGen r.ground.Reads stat)
      (·.replaceStore store) :=
    unseen_replaceStore (fun _ _ hreach hreads => hreach.tail hreads) hon
  have hrest : (r.replaceStore store).AtRest := ⟨h.stack, h.floor⟩
  -- Both runs are taken within the larger of the two budgets.
  let bound := max r.budget (r.replaceStore store).budget
  let key := r.ground.keyOf stat flags keywords
  have hrun : visit? bound r key = some (r.resolve stat flags keywords) :=
    visit?_mono (h.run_activation stat flags keywords) (Nat.le_max_left _ _)
  have hrun' : visit? bound (r.replaceStore store) key =
      some ((r.replaceStore store).resolve stat flags keywords) :=
    visit?_mono (hrest.run_activation stat flags keywords) (Nat.le_max_right _ _)
  have hsame : visit? bound (r.replaceStore store) key =
      (visit? bound r key).map fun result => (result.1, result.2.replaceStore store) :=
    hunseen.visit?_map h.ready .refl
  rw [hrun', hrun, Option.map_some] at hsame
  exact Option.some.inj hsame

/-- Stats that resolving a stat cannot get to do not interfere with it. Over two stores that have
the same modifiers on the stat and on every stat that it depends on, through conditions or through
attribute rules and however many of them depend on each other, new resolvers resolve it alike:
value, totals and contributions are the same. -/
theorem resolve_ofStore_eq (store store' : Store ν) (defaults : Context ν) (stat : String)
    (hon : ∀ other, Relation.ReflTransGen (Ground.Reads ⟨store, defaults⟩) stat other →
      store.on other = store'.on other)
    (flags : Option DamageFlags) (keywords : Option KeywordFlags) :
    ((ofStore store defaults).resolve stat flags keywords).1 =
      ((ofStore store' defaults).resolve stat flags keywords).1 := by
  have hreplaced := (atRest_ofStore store defaults).resolve_replaceStore
    (fun other hreach => (hon other hreach).symm) flags keywords
  exact (congrArg Prod.fst hreplaced).symm

end Resolver

/-- The circle of armour and evasion, with modifiers of life and mana in front of it, in the middle
and behind it. -/
def Store.crowded : Store Rat :=
  .ofList [
    { stat := "Life", kind := .base, value := .number 50 },
    { stat := "Armour", kind := .base, value := .number 2,
      condition := some (.multiplier "Evasion" 10 none) },
    { stat := "Life", kind := .increased, value := .number (1 / 5),
      condition := some (.threshold "Armour" 1 true) },
    { stat := "Evasion", kind := .base, value := .number 30 },
    { stat := "Mana", kind := .override, value := .number 7 },
    { stat := "Evasion", kind := .increased, value := .number (1 / 10),
      condition := some (.threshold "Armour" 5 true) },
    { stat := "Life", kind := .base, value := .number 1 }]

/-- Modifiers of life and mana do not interfere with armour, which depends on itself. -/
theorem Resolver.resolve_ofStore_eq_crowded :
    let g : Ground Rat := ⟨Ground.circular.store, .empty⟩
    Relation.TransGen g.Reads "Armour" "Armour" ∧
      (∀ other, Relation.ReflTransGen g.Reads "Armour" other →
        g.store.on other = Store.crowded.on other) ∧
      ((ofStore g.store .empty).resolve "Armour" (some (.single 5)) none).1 =
        ((ofStore Store.crowded .empty).resolve "Armour" (some (.single 5)) none).1 := by
  intro g
  have hread : g.Reads "Armour" "Evasion" := .inl (g.mem_unknowns.mp (by decide))
  have hback : g.Reads "Evasion" "Armour" := .inl (g.mem_unknowns.mp (by decide))
  have hon (other : String) (hreach : Relation.ReflTransGen g.Reads "Armour" other) :
      g.store.on other = Store.crowded.on other := by
    have hmem : other ∈ ["Armour", "Evasion", "Armour", "Strength", "Dexterity", "Intelligence"] :=
      Ground.mem_mentioned_of_reaches hreach
    have hstore : g.store.on other = _ := Store.on_ofList _ other
    rw [hstore, Store.crowded, Store.on_ofList]
    simp only [List.mem_cons, List.not_mem_nil, or_false] at hmem
    rcases hmem with rfl | rfl | rfl | rfl | rfl | rfl <;> rfl
  exact ⟨.tail (.single hread) hback, hon,
    resolve_ofStore_eq g.store Store.crowded .empty "Armour" hon (some (.single 5)) none⟩

end Loadout
