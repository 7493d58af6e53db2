import Loadout.Proofs.Store.Index

/-!
# Queries by index and by scan

A query about a stat goes through the index of the store. The same answers come from a scan of all
modifiers in the order in which they were added, one modifier at a time, which needs no index.
The two agree in every store that comes from empty stores by adding, merging, composing and
removing: each of these keeps the index exact, whatever was done before. Such a store therefore
has no memory of its history beyond its list of modifiers.

## Main definitions

* `Scan`: the queries as scans of a list of modifiers
* `Store.Exact`: the index has the stats of the modifiers as its keys and all their positions
* `Store.Scans`: every query that uses the index is answered as by a scan
* `Store.Built`: the stores that come from empty ones

## Main results

* `Store.Indexed.exact`, `Store.Indexed.scans`: what a right index gives
* `Store.remove_eq`: what removal leaves and counts
* `Store.Built.indexed`: every run keeps the index right
* `Store.Built.index_exact`: the four together
-/

namespace Loadout

variable {ν : Type}

/-! ### Scanning a list of modifiers -/

namespace Scan

variable [Scalar ν]

/-- What a modifier contributes to a query for a kind on a stat, or nothing when it does not
count. -/
def effect? (kind : Kind) (stat : String) (ctx : Context ν) (m : Modifier ν) : Option ν :=
  if m.stat = stat ∧ m.kind = kind then m.effect? ctx else none

/-- The modifiers that count, with their effects, in order. -/
def matching (ms : List (Modifier ν)) (kind : Kind) (stat : String) (ctx : Context ν) :
    List (Modifier ν × ν) :=
  ms.filterMap fun m => (effect? kind stat ctx m).map (m, ·)

/-- The running sum of bases or increases; other kinds do not add up. -/
def sum (ms : List (Modifier ν)) (kind : Kind) (stat : String) (ctx : Context ν) : ν :=
  if kind = .base ∨ kind = .increased then
    ms.foldl (fun total m =>
      match effect? kind stat ctx m with
      | some x => total + x
      | none => total) Scalar.zero
  else
    Scalar.zero

/-- The running product of "more" factors. -/
def more (ms : List (Modifier ν)) (stat : String) (ctx : Context ν) : ν :=
  ms.foldl (fun product m =>
    match effect? .more stat ctx m with
    | some x => product * (Scalar.one + x)
    | none => product) Scalar.one

/-- The first override that counts, seen from the end. -/
def override? (ms : List (Modifier ν)) (stat : String) (ctx : Context ν) : Option ν :=
  ms.reverse.findSome? (effect? .override stat ctx)

/-- The values of the entries that count, in order. -/
def entries (ms : List (Modifier ν)) (stat : String) (ctx : Context ν) : List (Value ν) :=
  ms.filterMap fun m => (effect? .list stat ctx m).map fun _ => m.value

end Scan

namespace Store

/-! ### What a right index gives -/

/-- The index has the stats of the modifiers as its keys and no others, and under each of them the
positions of all its modifiers in strictly increasing order. -/
structure Exact (s : Store ν) : Prop where
  mem_index (stat : String) : stat ∈ s.index ↔ ∃ m ∈ s.toList, m.stat = stat
  increasing {stat : String} {positions : Array Nat} (h : s.index[stat]? = some positions) :
    positions.toList.Pairwise (· < ·)
  mem_positions {stat : String} {positions : Array Nat} (h : s.index[stat]? = some positions)
    (i : Nat) : i ∈ positions ↔ ∃ m, s.modifiers[i]? = some m ∧ m.stat = stat

theorem Indexed.eq_of_getElem? {s : Store ν} (h : s.Indexed) {stat : String}
    {positions : Array Nat} (hget : s.index[stat]? = some positions) :
    positions = (positionsOf s.toList stat).toArray := by
  have hgetD := h.getD_eq stat
  rwa [hget, Option.getD_some] at hgetD

theorem Indexed.exact {s : Store ν} (h : s.Indexed) : s.Exact where
  mem_index := h.mem_index
  increasing hget := by
    rw [h.eq_of_getElem? hget]
    exact pairwise_positionsOf s.toList _
  mem_positions hget i := by
    rw [h.eq_of_getElem? hget, List.mem_toArray, mem_positionsOf]
    simp only [toList, Array.getElem?_toList]

/-- Every query that goes through the index is answered as a scan of the modifiers answers it. -/
structure Scans [Scalar ν] (s : Store ν) : Prop where
  on (stat : String) : s.on stat = s.toList.filter fun m => m.stat == stat
  increasing_stats : s.stats.Pairwise (· < ·)
  mem_stats (stat : String) : stat ∈ s.stats ↔ ∃ m ∈ s.toList, m.stat = stat
  hasStat (stat : String) : s.hasStat stat ↔ ∃ m ∈ s.toList, m.stat = stat
  hasModifier (kind : Kind) (stat : String) :
    s.hasModifier kind stat ↔ ∃ m ∈ s.toList, m.stat = stat ∧ m.kind = kind
  matching (kind : Kind) (stat : String) (ctx : Context ν) :
    s.matching kind stat ctx = Scan.matching s.toList kind stat ctx
  sum (kind : Kind) (stat : String) (ctx : Context ν) :
    s.sum kind stat ctx = Scan.sum s.toList kind stat ctx
  more (stat : String) (ctx : Context ν) : s.more stat ctx = Scan.more s.toList stat ctx
  override? (stat : String) (ctx : Context ν) :
    s.override? stat ctx = Scan.override? s.toList stat ctx
  switch (stat : String) (ctx : Context ν) : s.switch stat ctx ↔
    ∃ m ∈ s.toList, m.value = .flag true ∧ (Scan.effect? .flag stat ctx m).isSome
  entries (stat : String) (ctx : Context ν) :
    s.entries stat ctx = Scan.entries s.toList stat ctx

section Queries

theorem Indexed.hasModifier_iff {s : Store ν} (h : s.Indexed) (kind : Kind) (stat : String) :
    s.hasModifier kind stat ↔ ∃ m ∈ s.toList, m.stat = stat ∧ m.kind = kind := by
  rw [hasModifier, h.on_eq, List.any_filter, List.any_eq_true]
  simp only [Bool.and_eq_true, beq_iff_eq]

variable [Scalar ν] {s : Store ν}

theorem Indexed.matching_eq (h : s.Indexed) (kind : Kind) (stat : String) (ctx : Context ν) :
    s.matching kind stat ctx = Scan.matching s.toList kind stat ctx := by
  rw [matching, h.on_eq, List.filter_filter, List.filterMap_filter, Scan.matching]
  refine List.filterMap_congr fun m _ => ?_
  simp only [Scan.effect?, Bool.and_eq_true, beq_iff_eq, and_comm]
  split <;> rfl

theorem Indexed.effects_eq (h : s.Indexed) (kind : Kind) (stat : String) (ctx : Context ν) :
    (s.matching kind stat ctx).map (·.2) = s.toList.filterMap (Scan.effect? kind stat ctx) := by
  rw [h.matching_eq, Scan.matching, List.map_filterMap]
  refine List.filterMap_congr fun m _ => ?_
  rw [Option.map_map]
  exact Option.map_id'

theorem Indexed.sum_eq (h : s.Indexed) (kind : Kind) (stat : String) (ctx : Context ν) :
    s.sum kind stat ctx = Scan.sum s.toList kind stat ctx := by
  have hfold : Scalar.sum ((s.matching kind stat ctx).map (·.2)) =
      s.toList.foldl (fun total m =>
        match Scan.effect? kind stat ctx m with
        | some x => total + x
        | none => total) Scalar.zero := by
    rw [h.effects_eq, Scalar.sum, List.foldl_filterMap]
    rfl
  cases kind with
  | base | increased =>
    rw [Scan.sum, if_pos (by simp)]
    exact hfold
  | more | override | flag | list => rfl

theorem Indexed.more_eq (h : s.Indexed) (stat : String) (ctx : Context ν) :
    s.more stat ctx = Scan.more s.toList stat ctx := by
  have hfactors : ((s.matching .more stat ctx).map fun entry => Scalar.one + entry.2) =
      (s.toList.filterMap (Scan.effect? .more stat ctx)).map (Scalar.one + ·) := by
    rw [← h.effects_eq, List.map_map]
    rfl
  rw [more, hfactors, Scalar.product, List.foldl_map, List.foldl_filterMap]
  rfl

theorem Indexed.override?_eq (h : s.Indexed) (stat : String) (ctx : Context ν) :
    s.override? stat ctx = Scan.override? s.toList stat ctx := by
  rw [override?, ← List.getLast?_map, h.effects_eq, List.getLast?_filterMap]
  rfl

theorem Indexed.switch_iff (h : s.Indexed) (stat : String) (ctx : Context ν) :
    s.switch stat ctx ↔
      ∃ m ∈ s.toList, m.value = .flag true ∧ (Scan.effect? .flag stat ctx m).isSome := by
  rw [switch, h.matching_eq, Scan.matching, List.any_filterMap, List.any_eq_true]
  refine exists_congr fun m => and_congr_right fun _ => ?_
  cases Scan.effect? .flag stat ctx m with
  | none => simp
  | some x =>
    cases hvalue : m.value with
    | flag on => simp [hvalue]
    | number | entry => simp [hvalue]

theorem Indexed.entries_eq (h : s.Indexed) (stat : String) (ctx : Context ν) :
    s.entries stat ctx = Scan.entries s.toList stat ctx := by
  rw [entries, h.matching_eq, Scan.matching, List.map_filterMap, Scan.entries]
  refine List.filterMap_congr fun m _ => ?_
  rw [Option.map_map]
  rfl

theorem Indexed.scans (h : s.Indexed) : s.Scans where
  on := h.on_eq
  increasing_stats := s.index.ordered_keys.imp compareOfLessAndEq_eq_lt.mp
  mem_stats stat := Std.ExtTreeMap.mem_keys.trans (h.mem_index stat)
  hasStat stat := Std.ExtTreeMap.contains_iff_mem.trans (h.mem_index stat)
  hasModifier := h.hasModifier_iff
  matching := h.matching_eq
  sum := h.sum_eq
  more := h.more_eq
  override? := h.override?_eq
  switch := h.switch_iff
  entries := h.entries_eq

end Queries

/-! ### Runs -/

/-- Removal leaves the other modifiers in order and counts those that it took out. -/
theorem remove_eq (s : Store ν) (category : Category) (id : Option String) :
    (s.remove category id).1.toList = s.toList.filter (fun m => !m.origin.isFrom category id) ∧
      (s.remove category id).2 = s.toList.countP fun m => m.origin.isFrom category id := by
  have hleft : (s.remove category id).1.toList =
      s.toList.filter fun m => !m.origin.isFrom category id := toList_removeOrigin s category id
  refine ⟨hleft, ?_⟩
  have hsize : (s.remove category id).1.size =
      s.toList.countP fun m => !m.origin.isFrom category id := by
    rw [List.countP_eq_length_filter, ← hleft]
    exact Array.length_toList.symm
  have htotal : s.size = s.toList.countP (fun m => m.origin.isFrom category id) +
      s.toList.countP fun m => !m.origin.isFrom category id := by
    simpa [toList, size] using
      List.length_eq_countP_add_countP (l := s.toList) fun m => m.origin.isFrom category id
  calc (s.remove category id).2
      = s.size - (s.remove category id).1.size := rfl
    _ = s.toList.countP fun m => m.origin.isFrom category id := by
        rw [hsize, htotal, Nat.add_sub_cancel]

/-- The stores that come from empty stores by adding modifiers, collecting, merging and composing
stores, and removing modifiers. -/
inductive Built : Store ν → Prop
  | empty : Built empty
  | add {s : Store ν} (h : Built s) (m : Modifier ν) : Built (s.add m)
  | addAll {s : Store ν} (h : Built s) (ms : List (Modifier ν)) : Built (s.addAll ms)
  | ofList (ms : List (Modifier ν)) : Built (ofList ms)
  | merge {s other : Store ν} (h : Built s) (hother : Built other) : Built (s.merge other)
  | compose {parts : List (Store ν)} (h : ∀ part ∈ parts, Built part) : Built (compose parts)
  | remove {s : Store ν} (h : Built s) (category : Category) (id : Option String) :
    Built (s.remove category id).1

theorem Indexed.foldl_merge {s : Store ν} (h : s.Indexed) (parts : List (Store ν)) :
    (parts.foldl merge s).Indexed := by
  induction parts generalizing s with
  | nil => exact h
  | cons part parts ih => exact ih (h.addAll part.toList)

/-- In every run the index is right after each step. -/
theorem Built.indexed {s : Store ν} (h : s.Built) : s.Indexed := by
  induction h with
  | empty => exact indexed_empty
  | add _ m ih => exact ih.add m
  | addAll _ ms ih => exact ih.addAll ms
  | ofList ms => exact indexed_ofList ms
  | @merge s other _ _ ih _ => exact ih.addAll other.toList
  | @compose parts _ _ => exact indexed_empty.foldl_merge parts
  | remove _ category id ih => exact ih.removeOrigin category id

/-- In every run the index is exact, queries through it are scans of the modifiers, removal keeps
the other modifiers in order and counts those it takes out, and a store with the same modifiers,
whatever its history, is the same store. -/
theorem Built.index_exact [Scalar ν] {s : Store ν} (h : s.Built) :
    s.Exact ∧ s.Scans ∧
      (∀ category id, (s.remove category id).1.toList =
          s.toList.filter (fun m => !m.origin.isFrom category id) ∧
        (s.remove category id).2 = s.toList.countP fun m => m.origin.isFrom category id) ∧
      ∀ t : Store ν, t.Built → t.toList = s.toList → t = s :=
  ⟨h.indexed.exact, h.indexed.scans, s.remove_eq, fun _ ht heq => ht.indexed.ext h.indexed heq⟩

/-- Two stats in three modifiers, of which the first is then removed, and one more. -/
def shortened : Store Rat :=
  ((ofList [.number "Life" .base 10 ⟨.passive, some "1"⟩,
    .number "Mana" .base 5 ⟨.item, some "ring"⟩,
    .number "Life" .base 20 ⟨.passive, some "2"⟩]).remove .passive (some "1")).1.merge
    (ofList [.number "Mana" .increased (1 / 2) ⟨.item, some "belt"⟩])

theorem toList_shortened : shortened.toList =
    [.number "Mana" .base 5 ⟨.item, some "ring"⟩, .number "Life" .base 20 ⟨.passive, some "2"⟩,
      .number "Mana" .increased (1 / 2) ⟨.item, some "belt"⟩] := by
  rw [shortened, merge, toList_addAll, toList_ofList, (remove_eq _ _ _).1, toList_ofList]
  rfl

/-- Where positions have shifted once, the index is exact, another removal takes out two modifiers,
and the store is the one that adding its three modifiers gives. -/
theorem Built.index_exact_shortened :
    shortened.Built ∧ shortened.Exact ∧ shortened.Scans ∧ (shortened.remove .item none).2 = 2 ∧
      Store.ofList shortened.toList = shortened := by
  have hbuilt : shortened.Built := .merge (.remove (.ofList _) _ _) (.ofList _)
  obtain ⟨hexact, hscans, hremove, hext⟩ := Built.index_exact hbuilt
  refine ⟨hbuilt, hexact, hscans, ?_, hext _ (.ofList _) (toList_ofList _)⟩
  rw [(hremove .item none).2, toList_shortened]
  rfl

end Store

end Loadout
