import Loadout.Resolution.Breakdown

/-!
# Totals are those of the contributions

The loops that gather a stat list each contribution and grow the total of its kind in one step. So
at every point the totals are those of the contributions listed so far, and a stat is determined by
the list of its contributions: the bases add up, the increases add up to one factor, and each "more"
is a factor of its own.

The loop over the attributes counts everything but increases towards the base. It comes to the same
because attributes grant bases and increases only.

## Main definitions

* `Resolved.fromStore`, `Resolved.fromAttributes`: what modifiers and attributes contribute
* `Resolved.tallied`: a stat whose totals are those of the contributions listed so far
* `Resolved.ofContributions`: a stat as its contributions determine it

## Main results

* `Resolved.add_tallied`: one more contribution keeps the totals those of the contributions
* `Resolved.foldl_add_tallied`: so do any number of them
* `Resolved.combined_eq_ofContributions`: what the loops come to
-/

namespace Loadout

namespace Resolved

variable {ν : Type} [Scalar ν]

/-- The values of the contributions of one kind. -/
def valuesOf (kind : Kind) (contributions : List (Contribution ν)) : List ν :=
  (contributions.filter fun c => c.kind == kind).map (·.value)

omit [Scalar ν] in
theorem valuesOf_append (kind : Kind) (xs ys : List (Contribution ν)) :
    valuesOf kind (xs ++ ys) = valuesOf kind xs ++ valuesOf kind ys := by
  rw [valuesOf, List.filter_append, List.map_append, valuesOf, valuesOf]

omit [Scalar ν] in
theorem valuesOf_singleton (kind : Kind) (c : Contribution ν) :
    valuesOf kind [c] = if c.kind = kind then [c.value] else [] := by
  by_cases hkind : c.kind = kind <;> simp [valuesOf, hkind]

/-- A stat with these contributions and their totals, whose value is yet to be computed. -/
def tallied (stat : String) (contributions : List (Contribution ν)) : Resolved ν :=
  { nothing stat with
    base := Scalar.sum (valuesOf .base contributions)
    increased := Scalar.sum (valuesOf .increased contributions)
    more := Scalar.product ((valuesOf .more contributions).map (Scalar.one + ·))
    contributions }

/-- A stat as its contributions determine it. -/
def ofContributions (stat : String) (contributions : List (Contribution ν)) : Resolved ν :=
  let r := tallied stat contributions
  { r with value := r.base * (Scalar.one + r.increased) * r.more }

/-- The modifiers of one kind that apply, as contributions under the label of their origin. -/
def fromStore (store : Store ν) (kind : Kind) (stat : String) (ctx : Context ν) :
    List (Contribution ν) :=
  (store.matching kind stat ctx).map fun entry => ⟨entry.1.origin.text, kind, entry.2⟩

/-- What attributes contribute, given the value of each rule's attribute. Bonuses of zero are left
out. -/
def fromAttributes (values : List (AttributeRule ν × ν)) : List (Contribution ν) :=
  (values.map fun entry => ⟨entry.1.source, entry.1.kind, entry.1.bonus entry.2⟩).filter
    fun c => !(c.value == Scalar.zero)

theorem kind_of_mem_fromStore {store : Store ν} {kind : Kind} {stat : String} {ctx : Context ν}
    {c : Contribution ν} (h : c ∈ fromStore store kind stat ctx) : c.kind = kind := by
  obtain ⟨entry, -, rfl⟩ := List.mem_map.mp h
  rfl

theorem kind_of_mem_fromAttributes {attributes : List (AttributeRule ν × ν)}
    {c : Contribution ν} (h : c ∈ fromAttributes attributes) :
    ∃ entry ∈ attributes, c.kind = entry.1.kind := by
  obtain ⟨entry, hentry, rfl⟩ := List.mem_map.mp (List.mem_filter.mp h).1
  exact ⟨entry, hentry, rfl⟩

theorem valuesOf_fromStore (store : Store ν) (kind other : Kind) (stat : String)
    (ctx : Context ν) :
    valuesOf kind (fromStore store other stat ctx) =
      if other = kind then (store.matching kind stat ctx).map (·.2) else [] := by
  by_cases hkind : other = kind
  · subst hkind
    rw [if_pos rfl, valuesOf, List.filter_eq_self.mpr fun c hc =>
      beq_iff_eq.mpr (kind_of_mem_fromStore hc), fromStore, List.map_map]
    rfl
  · rw [if_neg hkind, valuesOf, List.filter_eq_nil_iff.mpr fun c hc heq =>
      hkind ((kind_of_mem_fromStore hc).symm.trans (beq_iff_eq.mp heq)), List.map_nil]

/-! ### One contribution more -/

/-- One more contribution keeps the totals those of the contributions. -/
theorem add_tallied (stat : String) (contributions : List (Contribution ν)) (c : Contribution ν) :
    (tallied stat contributions).add c = tallied stat (contributions ++ [c]) := by
  obtain ⟨label, kind, value⟩ := c
  cases kind <;>
    simp [add, listing, tallied, valuesOf_append, valuesOf_singleton, Scalar.sum, Scalar.product]

theorem foldl_add_tallied (stat : String) (contributions more : List (Contribution ν)) :
    more.foldl add (tallied stat contributions) = tallied stat (contributions ++ more) := by
  induction more generalizing contributions with
  | nil => rw [List.foldl_nil, List.append_nil]
  | cons c rest ih =>
    rw [List.foldl_cons, add_tallied, ih, List.append_assoc, List.singleton_append]

theorem addEach_tallied (stat : String) (contributions : List (Contribution ν))
    (store : Store ν) (kind : Kind) (ctx : Context ν) :
    (tallied stat contributions).addEach kind (store.matching kind stat ctx) =
      tallied stat (contributions ++ fromStore store kind stat ctx) := by
  rw [addEach, ← foldl_add_tallied, fromStore, List.foldl_map]

/-- What an attribute grants counts towards the total of its kind, as any contribution does, when it
is a base or an increase. -/
theorem addBonus_eq_add {rule : AttributeRule ν}
    (h : rule.kind = .base ∨ rule.kind = .increased) (r : Resolved ν) (points : ν) :
    r.addBonus rule points = if rule.bonus points == Scalar.zero then r
      else r.add ⟨rule.source, rule.kind, rule.bonus points⟩ := by
  obtain hkind | hkind := h <;> simp only [addBonus, add, hkind]

theorem foldl_addBonus {attributes : List (AttributeRule ν × ν)}
    (h : ∀ entry ∈ attributes, entry.1.kind = .base ∨ entry.1.kind = .increased)
    (r : Resolved ν) :
    attributes.foldl (fun r entry => r.addBonus entry.1 entry.2) r =
      (fromAttributes attributes).foldl add r := by
  induction attributes generalizing r with
  | nil => rfl
  | cons entry rest ih =>
    obtain ⟨hkind, hrest⟩ := List.forall_mem_cons.mp h
    rw [List.foldl_cons, ih hrest, addBonus_eq_add hkind]
    simp only [fromAttributes, List.map_cons, List.filter_cons]
    cases entry.1.bonus entry.2 == Scalar.zero <;> rfl

/-- What the loops make of a stat is what its contributions determine: the bases and the increases
of the modifiers, what the attributes contribute, and the factors. -/
theorem combined_eq_ofContributions {attributes : List (AttributeRule ν × ν)}
    (h : ∀ entry ∈ attributes, entry.1.kind = .base ∨ entry.1.kind = .increased)
    (store : Store ν) (stat : String) (ctx : Context ν) :
    combined store stat ctx attributes = ofContributions stat
      (fromStore store .base stat ctx ++ fromStore store .increased stat ctx ++
        fromAttributes attributes ++ fromStore store .more stat ctx) := by
  have hnothing : (nothing stat : Resolved ν) = tallied stat [] := rfl
  rw [combined, hnothing]
  simp only [addEach_tallied, foldl_addBonus h, foldl_add_tallied, List.nil_append]
  rfl

end Resolved

end Loadout
