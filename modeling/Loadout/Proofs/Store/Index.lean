import Mathlib.Data.List.Basic
import Loadout.Store

/-!
# The index of a store

The index of a store is right when it holds, under each stat that has a modifier, the positions of
that stat's modifiers in order, and nothing under any other name. Adding a modifier at the end
keeps it right. Taking modifiers out shifts the positions behind them; the index is then made anew,
which gives the index that adding the kept modifiers one by one would give.

## Main definitions

* `positionsOf`: the positions of a stat's modifiers in a list
* `Store.Indexed`: the index holds these positions for each stat

## Main results

* `Store.Indexed.add`, `Store.Indexed.addAll`, `Store.Indexed.removeOrigin`: building and removal
  keep the index right
* `Store.Indexed.on_eq`: the index finds what a search of all modifiers finds
* `Store.Indexed.ext`: stores with right indexes are equal when their modifiers are
-/

namespace Loadout

variable {ν : Type}

/-- The positions of a stat's modifiers in a list, in order. -/
def positionsOf (ms : List (Modifier ν)) (stat : String) : List Nat :=
  (ms.zipIdx.filter fun entry => entry.1.stat == stat).map (·.2)

/-! ### Positions in a list -/

theorem positionsOf_append_singleton (ms : List (Modifier ν)) (m : Modifier ν) (stat : String) :
    positionsOf (ms ++ [m]) stat =
      if m.stat = stat then positionsOf ms stat ++ [ms.length] else positionsOf ms stat := by
  rw [positionsOf, List.zipIdx_append, List.filter_append, List.map_append]
  by_cases h : m.stat = stat
  · simp [positionsOf, h]
  · simp [positionsOf, h]

theorem mem_positionsOf {ms : List (Modifier ν)} {stat : String} {i : Nat} :
    i ∈ positionsOf ms stat ↔ ∃ m, ms[i]? = some m ∧ m.stat = stat := by
  constructor
  · intro h
    obtain ⟨⟨m, j⟩, hentry, rfl⟩ := List.mem_map.mp h
    obtain ⟨hmem, hstat⟩ := List.mem_filter.mp hentry
    exact ⟨m, List.mem_zipIdx_iff_getElem?.mp hmem, beq_iff_eq.mp hstat⟩
  · rintro ⟨m, hget, hstat⟩
    refine List.mem_map.mpr ⟨(m, i), List.mem_filter.mpr ⟨?_, beq_iff_eq.mpr hstat⟩, rfl⟩
    exact List.mem_zipIdx_iff_getElem?.mpr hget

theorem pairwise_positionsOf (ms : List (Modifier ν)) (stat : String) :
    (positionsOf ms stat).Pairwise (· < ·) := by
  have hsub : (positionsOf ms stat).Sublist (ms.zipIdx.map (·.2)) :=
    List.filter_sublist.map _
  rw [List.zipIdx_map_snd] at hsub
  exact (List.pairwise_lt_range' 1).sublist hsub

theorem positionsOf_eq_nil_iff {ms : List (Modifier ν)} {stat : String} :
    positionsOf ms stat = [] ↔ ∀ m ∈ ms, m.stat ≠ stat := by
  rw [List.eq_nil_iff_forall_not_mem]
  constructor
  · intro h m hm hstat
    obtain ⟨i, hget⟩ := List.mem_iff_getElem?.mp hm
    exact h i (mem_positionsOf.mpr ⟨m, hget, hstat⟩)
  · intro h i hi
    obtain ⟨m, hget, hstat⟩ := mem_positionsOf.mp hi
    exact h m (List.mem_of_getElem? hget) hstat

/-- At the positions of a stat stand its modifiers, in order. -/
theorem filterMap_positionsOf (ms : List (Modifier ν)) (stat : String) :
    ((positionsOf ms stat).filterMap fun i => ms[i]?) = ms.filter fun m => m.stat == stat := by
  have hget (entry : Modifier ν × Nat)
      (h : entry ∈ ms.zipIdx.filter fun entry => entry.1.stat == stat) :
      ms[entry.2]? = some entry.1 :=
    List.mem_zipIdx_iff_getElem?.mp (List.mem_filter.mp h).1
  calc ((positionsOf ms stat).filterMap fun i => ms[i]?)
      = (ms.zipIdx.filter fun entry => entry.1.stat == stat).filterMap fun entry =>
          ms[entry.2]? := List.filterMap_map
    _ = (ms.zipIdx.filter fun entry => entry.1.stat == stat).filterMap (some ∘ Prod.fst) :=
        List.filterMap_congr hget
    _ = (ms.zipIdx.filter ((fun m => m.stat == stat) ∘ Prod.fst)).map Prod.fst := by
        rw [List.filterMap_eq_map]
        rfl
    _ = ms.filter fun m => m.stat == stat := by
        rw [← List.filter_map, List.zipIdx_map_fst]

/-! ### Stores with a right index -/

namespace Store

/-- The index holds the positions of each stat that has a modifier, and nothing else. -/
def Indexed (s : Store ν) : Prop :=
  ∀ stat, s.index[stat]? =
    if positionsOf s.toList stat = [] then none else some (positionsOf s.toList stat).toArray

theorem indexed_empty : (empty : Store ν).Indexed := by
  intro stat
  simp [empty, toList, positionsOf]

theorem getElem?_enter (index : Std.ExtTreeMap String (Array Nat)) (stat other : String)
    (position : Nat) : (enter index stat position)[other]? =
      if stat = other then some ((index[other]?.getD #[]).push position) else index[other]? := by
  rw [enter, Std.ExtTreeMap.getElem?_alter]
  simp only [Std.compare_eq_iff_eq]
  by_cases h : stat = other
  · rw [if_pos h, if_pos h, h]
  · rw [if_neg h, if_neg h]

theorem Indexed.getD_eq {s : Store ν} (h : s.Indexed) (stat : String) :
    s.index[stat]?.getD #[] = (positionsOf s.toList stat).toArray := by
  rw [h stat]
  split
  · next hnil => rw [hnil, Option.getD_none]
  · rw [Option.getD_some]

/-- Adding a modifier keeps the index right. -/
theorem Indexed.add {s : Store ν} (h : s.Indexed) (m : Modifier ν) : (s.add m).Indexed := by
  intro stat
  have htoList : (s.add m).toList = s.toList ++ [m] := by simp [Store.add, toList]
  have hsize : s.modifiers.size = s.toList.length := by simp [toList]
  rw [htoList, positionsOf_append_singleton, Store.add, getElem?_enter]
  by_cases hstat : m.stat = stat
  · rw [if_pos hstat, if_pos hstat, h.getD_eq, hsize, if_neg (by simp), List.push_toArray]
  · rw [if_neg hstat, if_neg hstat, h stat]

/-- Adding modifiers keeps the index right. -/
theorem Indexed.addAll {s : Store ν} (h : s.Indexed) (ms : List (Modifier ν)) :
    (s.addAll ms).Indexed := by
  induction ms generalizing s with
  | nil => exact h
  | cons m ms ih => exact ih (h.add m)

theorem indexed_ofList (ms : List (Modifier ν)) : (ofList ms).Indexed :=
  indexed_empty.addAll ms

theorem index_addAll (s : Store ν) (ms : List (Modifier ν)) :
    (s.addAll ms).index = (ms.zipIdx s.size).foldl (fun index entry =>
      enter index entry.1.stat entry.2) s.index := by
  induction ms generalizing s with
  | nil => rfl
  | cons m ms ih =>
    have hcons : s.addAll (m :: ms) = (s.add m).addAll ms := rfl
    have hsize : (s.add m).size = s.size + 1 := by simp [add, size]
    rw [hcons, ih, hsize]
    rfl

/-- Made anew, the index is the one that adding the modifiers in order gives. -/
theorem reindex_eq_ofList (s : Store ν) : s.reindex = ofList s.toList := by
  have hmodifiers : (ofList s.toList).modifiers = s.modifiers :=
    Array.toList_inj.mp (toList_ofList s.toList)
  have hindex : s.reindex.index = (ofList s.toList).index :=
    (index_addAll empty s.toList).symm
  calc s.reindex = ⟨s.modifiers, s.reindex.index⟩ := rfl
    _ = ⟨(ofList s.toList).modifiers, (ofList s.toList).index⟩ := by rw [hmodifiers, hindex]

/-- Removal keeps the index right: either positions shift and it is made anew, or there was nothing
to remove. -/
theorem Indexed.removeOrigin {s : Store ν} (h : s.Indexed) (category : Category)
    (id : Option String) : (s.removeOrigin category id).Indexed := by
  simp only [Store.removeOrigin]
  split
  · rw [reindex_eq_ofList]
    exact indexed_ofList _
  · next hsize =>
    -- Nothing was filtered out, so no position has shifted.
    have hcount : s.modifiers.countP (fun m => !m.origin.isFrom category id) = s.size :=
      Nat.le_antisymm Array.countP_le_size
        (Array.countP_eq_size_filter ▸ Nat.not_lt.mp hsize)
    have hkept : (s.modifiers.filter fun m => !m.origin.isFrom category id) = s.modifiers :=
      Array.filter_eq_self.mpr (Array.countP_eq_size.mp hcount)
    rw [hkept]
    exact h

/-! ### What the index finds -/

/-- The index finds the modifiers of a stat that a search of all modifiers finds. -/
theorem Indexed.on_eq {s : Store ν} (h : s.Indexed) (stat : String) :
    s.on stat = s.toList.filter fun m => m.stat == stat := by
  rw [on, h.getD_eq, ← filterMap_positionsOf]
  simp only [toList, Array.getElem?_toList]

theorem Indexed.mem_index {s : Store ν} (h : s.Indexed) (stat : String) :
    stat ∈ s.index ↔ ∃ m ∈ s.toList, m.stat = stat := by
  rw [Std.ExtTreeMap.mem_iff_isSome_getElem?, h stat]
  split
  · next hnil =>
    simpa using positionsOf_eq_nil_iff.mp hnil
  · next hne =>
    rw [positionsOf_eq_nil_iff] at hne
    simpa using hne

/-- Stores with right indexes are equal when they hold the same modifiers in the same order. -/
theorem Indexed.ext {s t : Store ν} (hs : s.Indexed) (ht : t.Indexed)
    (h : s.toList = t.toList) : s = t := by
  have hindex : s.index = t.index :=
    Std.ExtTreeMap.ext_getElem? fun stat => by rw [hs stat, ht stat, h]
  calc s = ⟨s.modifiers, s.index⟩ := rfl
    _ = ⟨t.modifiers, t.index⟩ := by rw [Array.toList_inj.mp h, hindex]

theorem on_ofList (ms : List (Modifier ν)) (stat : String) :
    (ofList ms).on stat = ms.filter fun m => m.stat == stat := by
  rw [(indexed_ofList ms).on_eq, toList_ofList]

end Store

end Loadout
