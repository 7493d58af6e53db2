import Mathlib.Data.Finset.Card
import Loadout.Proofs.Resolution.Bookkeeping

/-!
# Resolving comes to an end

The keys on the stack are different, and all but the outermost are default keys of stats that a
condition refers to or that are the source of an attribute rule. So there are at most as many keys
as such stats and one more, however the stats depend on each other and whatever is kept, and every
resolution comes to an end.

## Main definitions

* `Ground.referenced`: the stats that others may depend on

## Main results

* `Activation.During.length_le`: the bound on the stack
* `Resolver.resolve_ends`: every resolution comes to an end within the bound
-/

namespace Loadout

variable {ν : Type} [Scalar ν]

/-- The stats that some condition refers to or that are the source of an attribute rule. -/
def Ground.referenced (g : Ground ν) : Finset String :=
  (g.store.toList.filterMap fun m => m.condition.bind Condition.stat?).toFinset ∪
    ((AttributeRule.all : List (AttributeRule ν)).map (·.source)).toFinset

theorem Ground.mem_referenced {g : Ground ν} {stat : String} :
    stat ∈ g.referenced ↔ stat ∈ g.mentioned := by
  rw [referenced, mentioned, Finset.mem_union, List.mem_toFinset, List.mem_toFinset,
    List.mem_append, AttributeRule.mem_map_source_all]

/-- Besides the key that was asked for, the stack holds at most one key for each stat that others
may depend on. -/
theorem Activation.During.length_le {g : Ground ν} {top : Activation ν} (htop : top.Proper g [])
    {r : Resolver ν} (h : top.During r) : r.stack.length ≤ 1 + g.referenced.card := by
  obtain ⟨stack, hready, hnodup, hmentioned⟩ := h.ready htop
  have hsubset : stack.dropLast.toFinset ⊆ g.referenced.image g.defaultKey := by
    intro key hkey
    obtain ⟨stat, hstat, rfl⟩ := List.mem_map.mp (hmentioned key (List.mem_toFinset.mp hkey))
    exact Finset.mem_image_of_mem _ (Ground.mem_referenced.mpr hstat)
  have hcard : stack.dropLast.length ≤ g.referenced.card := by
    rw [← List.toFinset_card_of_nodup (hnodup.sublist (List.dropLast_sublist stack))]
    exact (Finset.card_le_card hsubset).trans Finset.card_image_le
  rw [hready.onStack]
  rw [List.length_dropLast] at hcard
  omega

/-- Whatever the store, the default situation, the kept answers, the stat and the flags are,
resolving the stat comes to an end: no budget changes the answer once it is large enough. On the
way there are never more keys on the stack than the stats that others may depend on and one more. -/
theorem Resolver.resolve_ends (store : Store ν) (defaults : Context ν)
    (cache : Std.HashMap ResolverKey (Resolved ν)) (stat : String) (flags : Option DamageFlags)
    (keywords : Option KeywordFlags) :
    let r : Resolver ν := { store, defaults, cache, stack := [], floor := none }
    let top := r.activation stat flags keywords
    (∀ bound, r.budget ≤ bound →
        visit? bound r top.key = some (r.resolve stat flags keywords)) ∧
      ∀ passed, top.During passed → passed.stack.length ≤ 1 + r.ground.referenced.card := by
  intro r top
  have hrest : r.AtRest := ⟨rfl, rfl⟩
  refine ⟨fun bound hbound => ?_, fun passed hpassed => ?_⟩
  · exact visit?_mono (hrest.run_activation stat flags keywords) hbound
  · exact hpassed.length_le (hrest.proper stat flags keywords)

end Loadout
