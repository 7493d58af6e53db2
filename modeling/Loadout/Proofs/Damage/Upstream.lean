import Mathlib.Logic.Relation
import Loadout.Damage.Graph
import Loadout.Proofs.Number.Rational
import Loadout.Proofs.Number.Sign

/-!
# Upstream types are those with a path

The search puts a type on its stack when an edge leads from it into a visited type, records it, and
visits it later, perhaps after it has been put there again. At any time what has been seen, on the
stack or visited, has a path to the target, and what edges lead from into a visited type has been
seen. When the stack is empty all that has been seen is visited, so it holds everything from which a
path leads to the target. This is so for any graph, with cycles or without.

## Main definitions

* `ConversionGraph.Edge`: an edge leads from one type to another
* `ConversionGraph.Search.Seen`: a type has been visited or stands on the stack
* `ConversionGraph.Search.Sound`: what holds of a search at any time

## Main results

* `ConversionGraph.Search.Sound.turn`, `ConversionGraph.Search.Sound.run`: a turn keeps it, and so
  do all of them
* `ConversionGraph.mem_upstream_iff`: the upstream types are those from which a path leads to the
  target
* `ConversionGraph.edge_ofMatrix_iff`: the edges of a matrix are its positive fractions
* `ConversionGraph.upstream_exact`: upstream types of a graph that is made edge by edge
-/

namespace Loadout

/-! ### Sorted lists without repetitions -/

namespace DamageType

theorem rank_injective {s t : DamageType} (h : s.rank = t.rank) : s = t := by
  cases s <;> cases t <;> first | rfl | cases h

theorem mem_sorted {types : List DamageType} {t : DamageType} : t ∈ sorted types ↔ t ∈ types := by
  simp [sorted, mem_all]

theorem pairwise_sorted (types : List DamageType) :
    (sorted types).Pairwise fun s t => s.rank ≤ t.rank := by
  have hall : all.Pairwise fun s t => s.rank < t.rank := by decide
  have hsame {s t : DamageType} (hs : s ∈ types.filter (· == t)) : s = t :=
    beq_iff_eq.mp (List.mem_filter.mp hs).2
  refine List.pairwise_flatMap.mpr ⟨fun t _ => ?_, hall.imp fun hlt s hs t ht => ?_⟩
  · exact List.pairwise_of_forall_mem_list fun s hs s' hs' =>
      (congrArg rank ((hsame hs).trans (hsame hs').symm)).le
  · rw [hsame hs, hsame ht]
    exact hlt.le

end DamageType

private theorem eraseRepsBy_loop {α : Type} (r : α → α → Bool) (a : α) (as kept : List α) :
    List.eraseRepsBy.loop r a as kept = kept.reverse ++ List.eraseRepsBy.loop r a as [] := by
  induction as generalizing a kept with
  | nil => simp [List.eraseRepsBy.loop]
  | cons b as ih =>
    simp only [List.eraseRepsBy.loop]
    split
    · exact ih a kept
    · rw [ih b, ih b [a], List.reverse_cons, List.append_assoc, List.reverse_singleton]

private theorem eraseReps_cons_cons (s t : DamageType) (types : List DamageType) :
    (s :: t :: types).eraseReps =
      if s = t then (s :: types).eraseReps else s :: (t :: types).eraseReps := by
  simp only [List.eraseReps, List.eraseRepsBy, List.eraseRepsBy.loop]
  by_cases h : s = t
  · rw [beq_iff_eq.mpr h, if_pos h]
  · rw [beq_eq_false_iff_ne.mpr h, if_neg h]
    exact eraseRepsBy_loop _ t types [s]

private theorem mem_eraseReps {types : List DamageType} {t : DamageType} :
    t ∈ types.eraseReps ↔ t ∈ types := by
  cases types with
  | nil => rfl
  | cons s types =>
    induction types generalizing s with
    | nil => rfl
    | cons u types ih =>
      rw [eraseReps_cons_cons]
      split
      · next h => rw [ih, h, List.mem_cons, List.mem_cons, List.mem_cons, or_self_left]
      · rw [List.mem_cons, ih, ← List.mem_cons]

/-- Without repetitions a sorted list is strictly in the order of the types. -/
private theorem pairwise_eraseReps {types : List DamageType}
    (h : types.Pairwise fun s t => s.rank ≤ t.rank) :
    types.eraseReps.Pairwise fun s t => s.rank < t.rank := by
  cases types with
  | nil => exact .nil
  | cons s types =>
    induction types generalizing s with
    | nil => exact List.pairwise_singleton _ s
    | cons u types ih =>
      obtain ⟨hs, hrest⟩ := List.pairwise_cons.mp h
      obtain ⟨hu, htypes⟩ := List.pairwise_cons.mp hrest
      rw [eraseReps_cons_cons]
      split
      · exact ih s (List.pairwise_cons.mpr ⟨fun t ht => hs t (List.mem_cons_of_mem u ht), htypes⟩)
      · next hne =>
        have hlt : s.rank < u.rank :=
          lt_of_le_of_ne (hs u List.mem_cons_self) (mt DamageType.rank_injective hne)
        refine List.pairwise_cons.mpr ⟨fun t ht => ?_, ih u hrest⟩
        rcases List.mem_cons.mp (mem_eraseReps.mp ht) with rfl | ht
        · exact hlt
        · exact hlt.trans_le (hu t ht)

namespace ConversionGraph

open Relation (ReflTransGen TransGen)

/-- An edge leads from one type to another. -/
def Edge (g : ConversionGraph) (s t : DamageType) : Prop :=
  (s, t) ∈ g.edges

variable {g : ConversionGraph} {target : DamageType}

theorem mem_sources {s t : DamageType} : s ∈ g.sources t ↔ g.Edge s t := by
  simp [sources, Edge]

/-! ### The search -/

namespace Search

variable {s s' : Search} {next : DamageType} {rest : List DamageType}

/-- A type has been visited or stands on the stack. -/
def Seen (s : Search) (t : DamageType) : Prop :=
  t ∈ s.visited ∨ t ∈ s.stack

theorem seen_drop_iff (hstack : s.stack = next :: rest) (hnext : next ∈ s.visited)
    (t : DamageType) : ({ s with stack := rest } : Search).Seen t ↔ s.Seen t := by
  rw [Seen, Seen, hstack, List.mem_cons]
  constructor
  · exact fun h => h.imp_right .inr
  · rintro (hvisited | rfl | hrest)
    · exact .inl hvisited
    · exact .inl hnext
    · exact .inr hrest

theorem seen_visit_iff (hstack : s.stack = next :: rest) (t : DamageType) :
    (s.visit g next rest).Seen t ↔ s.Seen t ∨ g.Edge t next := by
  simp only [Seen, visit, hstack, List.mem_cons, List.mem_append, List.mem_reverse,
    List.mem_filter, mem_sources, Bool.not_eq_true', List.contains_eq_mem, decide_eq_false_iff_not]
  tauto

theorem mem_reached_visit_iff (t : DamageType) : t ∈ (s.visit g next rest).reached ↔
    t ∈ s.reached ∨ g.Edge t next ∧ t ∉ next :: s.visited := by
  simp only [visit, List.mem_append, List.mem_filter, mem_sources, Bool.not_eq_true',
    List.contains_eq_mem, decide_eq_false_iff_not]

/-- What holds of a search for a target at any time. -/
structure Sound (g : ConversionGraph) (target : DamageType) (s : Search) : Prop where
  target_seen : s.Seen target
  /-- What edges lead from into a visited type has been seen. -/
  closed : ∀ t ∈ s.visited, ∀ u, g.Edge u t → s.Seen u
  path_of_seen : ∀ t, s.Seen t → ReflTransGen g.Edge t target
  reached_of_seen : ∀ t, s.Seen t → t = target ∨ t ∈ s.reached
  path_of_reached : ∀ t ∈ s.reached, TransGen g.Edge t target

theorem sound_start (g : ConversionGraph) (target : DamageType) :
    Sound g target (start target) where
  target_seen := .inr List.mem_cons_self
  closed t ht := absurd ht List.not_mem_nil
  path_of_seen t ht := by
    rcases ht with ht | ht
    · exact absurd ht List.not_mem_nil
    · rw [List.mem_singleton.mp ht]
  reached_of_seen t ht := by
    rcases ht with ht | ht
    · exact absurd ht List.not_mem_nil
    · exact .inl (List.mem_singleton.mp ht)
  path_of_reached t ht := absurd ht List.not_mem_nil

namespace Sound

theorem drop (h : Sound g target s) (hstack : s.stack = next :: rest) (hnext : next ∈ s.visited) :
    Sound g target { s with stack := rest } := by
  have hseen := seen_drop_iff hstack hnext
  exact {
    target_seen := (hseen target).mpr h.target_seen
    closed := fun t ht u hedge => (hseen u).mpr (h.closed t ht u hedge)
    path_of_seen := fun t ht => h.path_of_seen t ((hseen t).mp ht)
    reached_of_seen := fun t ht => h.reached_of_seen t ((hseen t).mp ht)
    path_of_reached := h.path_of_reached }

/-- A visit adds types with a path through the visited one. -/
theorem visit (h : Sound g target s) (hstack : s.stack = next :: rest) :
    Sound g target (s.visit g next rest) := by
  have hseen := seen_visit_iff (g := g) hstack
  have hnext : s.Seen next := .inr (hstack ▸ List.mem_cons_self)
  have hpath {t : DamageType} (hedge : g.Edge t next) : TransGen g.Edge t target :=
    .head' hedge (h.path_of_seen next hnext)
  exact {
    target_seen := (hseen target).mpr (.inl h.target_seen)
    closed := by
      intro t ht u hedge
      rcases List.mem_cons.mp ht with rfl | ht
      · exact (hseen u).mpr (.inr hedge)
      · exact (hseen u).mpr (.inl (h.closed t ht u hedge))
    path_of_seen := by
      intro t ht
      rcases (hseen t).mp ht with ht | hedge
      · exact h.path_of_seen t ht
      · exact (hpath hedge).to_reflTransGen
    reached_of_seen := by
      intro t ht
      -- What an edge leads from is either put on the stack now or was seen before.
      have hold : s.Seen t ∨ g.Edge t next ∧ t ∉ next :: s.visited := by
        rcases (hseen t).mp ht with ht | hedge
        · exact .inl ht
        · by_cases hmem : t ∈ next :: s.visited
          · rcases List.mem_cons.mp hmem with rfl | hvisited
            · exact .inl hnext
            · exact .inl (.inl hvisited)
          · exact .inr ⟨hedge, hmem⟩
      rw [mem_reached_visit_iff, ← or_assoc]
      exact hold.imp_left (h.reached_of_seen t)
    path_of_reached := by
      intro t ht
      rcases (mem_reached_visit_iff t).mp ht with ht | ⟨hedge, -⟩
      · exact h.path_of_reached t ht
      · exact hpath hedge }

/-- A turn keeps what holds of a search. -/
theorem turn (h : Sound g target s) (hturn : s.turn? g = some s') : Sound g target s' := by
  obtain ⟨next, rest, hstack, ⟨hnext, rfl⟩ | ⟨-, rfl⟩⟩ := turn?_eq_some_iff.mp hturn
  · exact h.drop hstack hnext
  · exact h.visit hstack

/-- So do all turns. -/
theorem run (h : Sound g target s) : Sound g target (s.run g) := by
  fun_induction Search.run g s with
  | case1 s _ => exact h
  | case2 s s' hturn ih => exact ih (h.turn hturn)

/-- When nothing is left on the stack, everything from which a path leads to the target has been
visited. -/
theorem mem_visited_of_path (h : Sound g target s) (hstack : s.stack = []) {t : DamageType}
    (hpath : ReflTransGen g.Edge t target) : t ∈ s.visited := by
  have hvisited {u : DamageType} (hu : s.Seen u) : u ∈ s.visited :=
    hu.resolve_right (hstack ▸ List.not_mem_nil)
  induction hpath using ReflTransGen.head_induction_on with
  | refl => exact hvisited h.target_seen
  | head hedge _ ih => exact hvisited (h.closed _ ih _ hedge)

end Sound

theorem stack_run (g : ConversionGraph) (s : Search) : (s.run g).stack = [] := by
  fun_induction Search.run g s with
  | case1 s hturn =>
    cases hstack : s.stack with
    | nil => rfl
    | cons next rest => simp [turn?, hstack] at hturn
  | case2 _ _ _ ih => exact ih

theorem mem_reached_run_start_iff {t : DamageType} (hne : t ≠ target) :
    t ∈ ((start target).run g).reached ↔ ReflTransGen g.Edge t target := by
  have h : Sound g target ((start target).run g) := (sound_start g target).run
  constructor
  · exact fun ht => (h.path_of_reached t ht).to_reflTransGen
  · intro hpath
    have hvisited := h.mem_visited_of_path (stack_run g _) hpath
    exact (h.reached_of_seen t (.inl hvisited)).resolve_left hne

end Search

/-- The upstream types of a target are the others from which a path leads to it. -/
theorem mem_upstream_iff {s : DamageType} :
    s ∈ g.upstream target ↔ s ≠ target ∧ ReflTransGen g.Edge s target := by
  rw [upstream, List.mem_filter, mem_eraseReps, DamageType.mem_sorted, bne_iff_ne, and_comm]
  exact and_congr_right Search.mem_reached_run_start_iff

theorem pairwise_upstream (g : ConversionGraph) (target : DamageType) :
    (g.upstream target).Pairwise fun s t => s.rank < t.rank :=
  (pairwise_eraseReps (DamageType.pairwise_sorted _)).filter _

/-- In a graph with a cycle the search ends and leaves the target out. -/
example : (ConversionGraph.mk [(.cold, .fire), (.fire, .cold), (.physical, .cold)]).upstream .fire =
    [.physical, .cold] := by
  decide +kernel

/-! ### Graphs made edge by edge -/

section Edges

variable {ν : Type} [Scalar ν] {s t : DamageType}

/-- An edge is added unless its fraction is at most zero. -/
theorem edge_addEdge_iff {source u : DamageType} {x : ν} :
    (g.addEdge source u x).Edge s t ↔
      g.Edge s t ∨ s = source ∧ t = u ∧ ¬ x ≤ Scalar.zero := by
  unfold addEdge
  split
  · next h => exact ⟨.inl, fun h' => h'.resolve_right fun hnew => hnew.2.2 h⟩
  · next h =>
    rw [Edge, List.mem_append, List.mem_singleton, Prod.mk.injEq]
    exact or_congr_right (and_congr_right fun _ => (and_iff_left h).symm)

/-- A graph with edges added one after the other. -/
def addEdges (g : ConversionGraph) (edges : List (DamageType × DamageType × ν)) :
    ConversionGraph :=
  edges.foldl (fun g edge => g.addEdge edge.1 edge.2.1 edge.2.2) g

theorem edge_addEdges_iff {edges : List (DamageType × DamageType × ν)} :
    (g.addEdges edges).Edge s t ↔ g.Edge s t ∨ ∃ x, (s, t, x) ∈ edges ∧ ¬ x ≤ Scalar.zero := by
  induction edges generalizing g with
  | nil => simp [addEdges]
  | cons edge edges ih =>
    obtain ⟨source, u, y⟩ := edge
    have hhead : (s = source ∧ t = u ∧ ¬ y ≤ Scalar.zero) ↔
        ∃ x, (s, t, x) = (source, u, y) ∧ ¬ x ≤ Scalar.zero := by
      simp only [Prod.mk.injEq, and_assoc, exists_and_left, exists_eq_left]
    change ((g.addEdge source u y).addEdges edges).Edge s t ↔ _
    rw [ih, edge_addEdge_iff, or_assoc, hhead, ← exists_or]
    simp only [List.mem_cons, or_and_right]

theorem ofMatrix_eq (m : ConversionMatrix ν) : ofMatrix m =
    empty.addEdges (DamageType.all.flatMap fun source =>
      (m.targets source).map fun entry => (source, entry.1, entry.2)) := by
  simp only [ofMatrix, addEdges, List.foldl_flatMap, List.foldl_map]

/-- The edges of a matrix are its positive fractions. -/
theorem edge_ofMatrix_iff {m : ConversionMatrix Rat} :
    (ofMatrix m).Edge s t ↔ 0 < m.get s t := by
  rw [ofMatrix_eq, edge_addEdges_iff]
  constructor
  · rintro (hempty | ⟨x, hmem, -⟩)
    · exact absurd hempty List.not_mem_nil
    · obtain ⟨source, -, hrow⟩ := List.mem_flatMap.mp hmem
      obtain ⟨entry, hentry, heq⟩ := List.mem_map.mp hrow
      cases heq
      obtain ⟨hget, hpos⟩ := ConversionMatrix.mem_targets.mp hentry
      exact hget ▸ hpos
  · intro hpos
    have hentry : (t, m.get s t) ∈ m.targets s := ConversionMatrix.mem_targets.mpr ⟨rfl, hpos⟩
    refine .inr ⟨m.get s t, ?_, not_le.mpr hpos⟩
    exact List.mem_flatMap.mpr ⟨s, s.mem_all, List.mem_map_of_mem hentry⟩

/-- A positive edge between two types was added. -/
def Feeds (edges : List (DamageType × DamageType × ν)) (s t : DamageType) : Prop :=
  ∃ x, (s, t, x) ∈ edges ∧ Scalar.zero < x

/-- An edge between two types was added whose fraction is not at most zero. -/
def Leads (edges : List (DamageType × DamageType × ν)) (s t : DamageType) : Prop :=
  ∃ x, (s, t, x) ∈ edges ∧ ¬ x ≤ Scalar.zero

end Edges

end ConversionGraph

end Loadout
