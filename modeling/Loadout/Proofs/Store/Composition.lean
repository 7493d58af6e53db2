import Loadout.Proofs.Number.Rational
import Loadout.Proofs.Store.Scanning

/-!
# Queries on composed stores

Composing stores enters their modifiers one after the other into an index of its own. What a query
finds there is what it finds in the parts, one part after the other, so every query on a composed
store is decided by the same query on the parts. Sums, products and switches do not even depend on
the order of the parts. Overrides do: the last part that has one decides, which is how one category
of modifiers takes precedence over another.

Sums and products are taken over the rationals, where nothing is rounded.

## Main definitions

* `Store.Aggregates`: every query on a store in terms of the queries on certain parts

## Main results

* `Store.matching_compose`: what matches in a composed store
* `Store.aggregates_compose`: a composed store aggregates its parts
* `Store.compose_aggregates`: it does, and for some queries the order of the parts does not matter
-/

namespace Loadout.Store

section Order

variable {ν : Type} [Scalar ν] {parts : List (Store ν)} (h : ∀ part ∈ parts, part.Indexed)
include h

/-- What matches in a composed store is what matches in the parts, one part after the other. -/
theorem matching_compose (kind : Kind) (stat : String) (ctx : Context ν) :
    (compose parts).matching kind stat ctx =
      parts.flatMap fun part => part.matching kind stat ctx := by
  have hcompose : (compose parts).Indexed := indexed_empty.foldl_merge parts
  calc (compose parts).matching kind stat ctx
      = Scan.matching (parts.flatMap toList) kind stat ctx := by
        rw [hcompose.matching_eq, toList_compose]
    _ = parts.flatMap fun part => Scan.matching part.toList kind stat ctx :=
        List.filterMap_flatMap
    _ = parts.flatMap fun part => part.matching kind stat ctx :=
        List.flatMap_congr fun part hpart => ((h part hpart).matching_eq kind stat ctx).symm

theorem override?_compose (stat : String) (ctx : Context ν) :
    (compose parts).override? stat ctx =
      parts.reverse.findSome? fun part => part.override? stat ctx := by
  rw [override?, matching_compose h, List.getLast?_flatMap, List.map_findSome?]
  rfl

theorem switch_compose (stat : String) (ctx : Context ν) :
    (compose parts).switch stat ctx = parts.any fun part => part.switch stat ctx := by
  rw [switch, matching_compose h, List.any_flatMap]
  rfl

theorem entries_compose (stat : String) (ctx : Context ν) :
    (compose parts).entries stat ctx = parts.flatMap fun part => part.entries stat ctx := by
  rw [entries, matching_compose h, List.map_flatMap]
  rfl

end Order

section Totals

variable {parts : List (Store Rat)} (h : ∀ part ∈ parts, part.Indexed)
include h

theorem sum_compose (kind : Kind) (stat : String) (ctx : Context Rat) :
    (compose parts).sum kind stat ctx =
      (parts.map fun part => part.sum kind stat ctx).sum := by
  have heffects : Scalar.sum (((compose parts).matching kind stat ctx).map (·.2)) =
      (parts.map fun part =>
        Scalar.sum ((part.matching kind stat ctx).map (·.2))).sum := by
    rw [matching_compose h, List.map_flatMap, Scalar.sum_flatMap_rat]
  cases kind with
  | base | increased => exact heffects
  | more | override | flag | list => exact List.sum_map_zero.symm

theorem more_compose (stat : String) (ctx : Context Rat) :
    (compose parts).more stat ctx = (parts.map fun part => part.more stat ctx).prod := by
  rw [more, matching_compose h, List.map_flatMap, Scalar.product_flatMap_rat]
  rfl

end Totals

/-- Every query on a store is decided by the same query on certain parts: sums add up, products
multiply, the override is that of the last part that has one, a switch is on when it is on in
some part, and what matches stands in the order of the parts. -/
structure Aggregates (s : Store Rat) (parts : List (Store Rat)) : Prop where
  matching (kind : Kind) (stat : String) (ctx : Context Rat) :
    s.matching kind stat ctx = parts.flatMap fun part => part.matching kind stat ctx
  sum (kind : Kind) (stat : String) (ctx : Context Rat) :
    s.sum kind stat ctx = (parts.map fun part => part.sum kind stat ctx).sum
  more (stat : String) (ctx : Context Rat) :
    s.more stat ctx = (parts.map fun part => part.more stat ctx).prod
  override? (stat : String) (ctx : Context Rat) :
    s.override? stat ctx = parts.reverse.findSome? fun part => part.override? stat ctx
  switch (stat : String) (ctx : Context Rat) :
    s.switch stat ctx ↔ ∃ part ∈ parts, part.switch stat ctx
  entries (stat : String) (ctx : Context Rat) :
    s.entries stat ctx = parts.flatMap fun part => part.entries stat ctx

/-- A composed store aggregates its parts. -/
theorem aggregates_compose {parts : List (Store Rat)} (h : ∀ part ∈ parts, part.Indexed) :
    (compose parts).Aggregates parts where
  matching := matching_compose h
  sum := sum_compose h
  more := more_compose h
  override? := override?_compose h
  switch stat ctx := by rw [switch_compose h, List.any_eq_true]
  entries := entries_compose h

/-- A composed store aggregates its parts, and its sums, products and switches are those of the
parts in any other order. -/
theorem compose_aggregates {parts : List (Store Rat)} (h : ∀ part ∈ parts, part.Built) :
    (compose parts).Aggregates parts ∧
      ∀ reordered : List (Store Rat), reordered.Perm parts → ∀ stat ctx,
        (∀ kind, (compose reordered).sum kind stat ctx = (compose parts).sum kind stat ctx) ∧
        (compose reordered).more stat ctx = (compose parts).more stat ctx ∧
        (compose reordered).switch stat ctx = (compose parts).switch stat ctx := by
  have hparts : ∀ part ∈ parts, part.Indexed := fun part hpart => (h part hpart).indexed
  refine ⟨aggregates_compose hparts, fun reordered hperm stat ctx => ?_⟩
  have hreordered : ∀ part ∈ reordered, part.Indexed := fun part hpart =>
    hparts part (hperm.mem_iff.mp hpart)
  refine ⟨fun kind => ?_, ?_, ?_⟩
  · rw [sum_compose hreordered, sum_compose hparts]
    exact (hperm.map _).sum_eq
  · rw [more_compose hreordered, more_compose hparts]
    exact (hperm.map _).prod_eq
  · rw [switch_compose hreordered, switch_compose hparts]
    exact hperm.any_eq

/-- A store that has lost a modifier, one with two overrides and an empty one, in two orders. -/
theorem compose_aggregates_shortened :
    let belt : Store Rat := ofList [.number "Life" .override 50 ⟨.item, some "belt"⟩,
      .number "Life" .override 7 ⟨.item, some "belt"⟩, .number "Mana" .base 3 ⟨.item, some "belt"⟩]
    (∀ part ∈ [shortened, belt, .empty], part.Built) ∧
      (compose [shortened, belt, .empty]).Aggregates [shortened, belt, .empty] ∧
      (compose [belt, shortened, .empty]).sum .base "Mana" .empty =
        (compose [shortened, belt, .empty]).sum .base "Mana" .empty := by
  intro belt
  have hbuilt : ∀ part ∈ [shortened, belt, .empty], part.Built := by
    simp only [List.forall_mem_cons, List.not_mem_nil, false_imp_iff, implies_true, and_true]
    exact ⟨.merge (.remove (.ofList _) _ _) (.ofList _), .ofList _, .empty⟩
  obtain ⟨haggregates, horder⟩ := compose_aggregates hbuilt
  exact ⟨hbuilt, haggregates, (horder _ (.swap _ _ _) "Mana" .empty).1 .base⟩

end Loadout.Store
