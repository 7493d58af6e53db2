import Std.Data.ExtTreeMap.Lemmas
import Mathlib.Logic.Basic

/-!
# Maps and their entries

A map is its list of entries. Looking a key up in that list is looking it up in the map, and
inserting the entries one by one gives the map again. Entries under different keys can be
inserted in any map: each key of theirs takes its entry and every other key keeps what it had.

## Main results

* `lookup_toList`: a map is looked up in its list of entries
* `getElem?_foldl_insert`: a map with entries inserted
* `ofList_toList`: a map is made of its entries
-/

namespace Loadout

variable {κ α : Type} [BEq κ] [LawfulBEq κ]

theorem lookup_eq_some_iff_mem {entries : List (κ × α)}
    (h : entries.Pairwise fun a b => a.1 ≠ b.1) {key : κ} {value : α} :
    entries.lookup key = some value ↔ (key, value) ∈ entries := by
  rw [List.lookup_eq_some_iff]
  constructor
  · rintro ⟨before, after, rfl, -⟩
    exact List.mem_append_cons_self
  · intro hmem
    obtain ⟨before, after, rfl⟩ := List.append_of_mem hmem
    refine ⟨before, after, rfl, fun entry hentry => bne_iff_ne.mpr (Ne.symm ?_)⟩
    exact (List.pairwise_append.mp h).2.2 entry hentry (key, value) List.mem_cons_self

variable [Ord κ] [Std.TransOrd κ] [Std.LawfulEqOrd κ]

omit [BEq κ] [LawfulBEq κ] in
theorem pairwise_toList (map : Std.ExtTreeMap κ α) :
    map.toList.Pairwise fun a b => a.1 ≠ b.1 :=
  map.distinct_keys_toList.imp fun hne heq => hne (Std.compare_eq_iff_eq.mpr heq)

/-- A map is looked up in its list of entries. -/
theorem lookup_toList (map : Std.ExtTreeMap κ α) (key : κ) :
    map.toList.lookup key = map[key]? :=
  Option.ext fun value => by
    rw [lookup_eq_some_iff_mem (pairwise_toList map),
      Std.ExtTreeMap.mem_toList_iff_getElem?_eq_some]

/-- Entries under different keys are inserted one by one, and each key keeps its own. -/
theorem getElem?_foldl_insert {entries : List (κ × α)}
    (h : entries.Pairwise fun a b => a.1 ≠ b.1) (map : Std.ExtTreeMap κ α) (key : κ) :
    (entries.foldl (fun map entry => map.insert entry.1 entry.2) map)[key]? =
      (entries.lookup key).or map[key]? := by
  induction entries generalizing map with
  | nil => rfl
  | cons entry entries ih =>
    obtain ⟨hfirst, hrest⟩ := List.pairwise_cons.mp h
    rw [List.foldl_cons, ih hrest, Std.ExtTreeMap.getElem?_insert, List.lookup_cons]
    by_cases hkey : entry.1 = key
    · have hnone : entries.lookup key = none :=
        List.lookup_eq_none_iff.mpr fun other hother =>
          bne_iff_ne.mpr (hkey ▸ hfirst other hother)
      rw [hnone, if_pos (Std.compare_eq_iff_eq.mpr hkey), beq_iff_eq.mpr hkey.symm]
      rfl
    · rw [if_neg (mt Std.compare_eq_iff_eq.mp hkey), beq_eq_false_iff_ne.mpr (Ne.symm hkey)]

theorem getElem?_ofList {entries : List (κ × α)} (h : entries.Pairwise fun a b => a.1 ≠ b.1)
    (key : κ) : (Std.ExtTreeMap.ofList entries)[key]? = entries.lookup key := by
  rw [Std.ExtTreeMap.ofList_eq_foldl]
  simpa using getElem?_foldl_insert h ∅ key

/-- A map is made of its entries. -/
theorem ofList_toList (map : Std.ExtTreeMap κ α) : Std.ExtTreeMap.ofList map.toList = map :=
  Std.ExtTreeMap.ext_getElem? fun {key} => by
    rw [getElem?_ofList (pairwise_toList map), lookup_toList]

end Loadout
