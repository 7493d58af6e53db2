import Loadout.Damage.Matrix

/-!
# Where damage can come from

The positive conversions form a directed graph on the damage types. The types from
which a type can receive damage are those from which a path leads to it. The graph is
any graph: it may have cycles and several edges between two types.

The search for them goes against the edges with a stack. A type is put on the stack
by each edge that leads from it into a type that is visited, so it may stand there more
than once, and what has been visited is dropped when its turn comes again. The search ends,
for a turn either shortens the stack or visits a type, and a visit puts no more on the stack
than there are edges.

## Main definitions

* `ConversionGraph`: the edges
* `ConversionGraph.Search`: how far a search has come
* `ConversionGraph.Search.turn?`, `ConversionGraph.Search.run`: one turn, and all of them
* `ConversionGraph.upstream`: the types from which a path leads to a type
* `inheritanceChain`: the same for the positive entries of a matrix

## Main results

* `ConversionGraph.Search.turn?_eq_some_iff`: what a turn does
* `ConversionGraph.Search.turnsLeft_lt`: each turn leaves fewer turns
-/

namespace Loadout

/-- Positive conversions as edges from source to target. -/
structure ConversionGraph where
  edges : List (DamageType × DamageType)
  deriving DecidableEq

/-- The members of a list in the order of the types, each as often as it stands there. -/
def DamageType.sorted (types : List DamageType) : List DamageType :=
  all.flatMap fun t => types.filter (· == t)

namespace ConversionGraph

/-- No conversions. -/
def empty : ConversionGraph :=
  ⟨[]⟩

/-- Adds an edge, unless its fraction is at most zero. -/
def addEdge {ν : Type} [Scalar ν] (g : ConversionGraph) (source target : DamageType)
    (fraction : ν) : ConversionGraph :=
  if fraction ≤ Scalar.zero then g else ⟨g.edges ++ [(source, target)]⟩

/-- The graph of the positive entries of a matrix. -/
def ofMatrix {ν : Type} [Scalar ν] (m : ConversionMatrix ν) : ConversionGraph :=
  DamageType.all.foldl (fun g source =>
    (m.targets source).foldl (fun g entry => g.addEdge source entry.1 entry.2) g) empty

/-- Whether a type converts to any. -/
def converts (g : ConversionGraph) (source : DamageType) : Bool :=
  g.edges.any fun edge => edge.1 == source

/-- The types that the edges into a type come from, those of newer edges first. -/
def sources (g : ConversionGraph) (target : DamageType) : List DamageType :=
  (g.edges.reverse.filter fun edge => edge.2 == target).map (·.1)

/-- How far a search has come. -/
structure Search where
  visited : List DamageType
  /-- What the search has yet to turn to, the next first. -/
  stack : List DamageType
  /-- What has been put on the stack, in order. -/
  reached : List DamageType

namespace Search

/-- A search that has yet to turn to its target. -/
def start (target : DamageType) : Search :=
  { visited := [], stack := [target], reached := [] }

/-- The search after it has visited a type: what edges lead from into the type goes on the stack,
unless it has been visited. -/
def visit (g : ConversionGraph) (s : Search) (next : DamageType) (rest : List DamageType) :
    Search :=
  let visited := next :: s.visited
  let found := (g.sources next).filter fun t => !visited.contains t
  { visited, stack := found.reverse ++ rest, reached := s.reached ++ found }

/-- The search after its next turn, if there is one. What has been visited is not visited again. -/
def turn? (g : ConversionGraph) (s : Search) : Option Search :=
  match s.stack with
  | [] => none
  | next :: rest =>
    some (if s.visited.contains next then { s with stack := rest } else s.visit g next rest)

/-- A turn takes the next type from the stack. It drops the type if that has been visited, and
visits it otherwise. -/
theorem turn?_eq_some_iff {g : ConversionGraph} {s s' : Search} :
    s.turn? g = some s' ↔ ∃ next rest, s.stack = next :: rest ∧
      (next ∈ s.visited ∧ s' = { s with stack := rest } ∨
        next ∉ s.visited ∧ s' = s.visit g next rest) := by
  cases hs : s.stack with
  | nil => simp [turn?, hs]
  | cons next rest =>
    by_cases hnext : next ∈ s.visited
    · simp [turn?, hs, hnext, and_assoc, eq_comm (b := s')]
    · simp [turn?, hs, hnext, and_assoc, eq_comm (b := s')]

/-- The types that have not been visited. -/
def unvisited (s : Search) : List DamageType :=
  DamageType.all.filter fun t => !s.visited.contains t

theorem length_unvisited_visit {g : ConversionGraph} {s : Search} {next : DamageType}
    (h : next ∉ s.visited) (rest : List DamageType) :
    (s.visit g next rest).unvisited.length < s.unvisited.length := by
  have hfewer : (s.visit g next rest).unvisited = s.unvisited.filter (· != next) := by
    rw [unvisited, unvisited, List.filter_filter]
    refine List.filter_congr fun t _ => ?_
    by_cases ht : t = next <;> simp [visit, ht]
  rw [hfewer, List.length_filter_lt_length_iff_exists]
  exact ⟨next, by simp [unvisited, next.mem_all, h], by simp⟩

theorem length_stack_visit (g : ConversionGraph) (s : Search) (next : DamageType)
    (rest : List DamageType) :
    (s.visit g next rest).stack.length ≤ g.edges.length + rest.length := by
  have hsources : (g.sources next).length ≤ g.edges.length := by
    rw [sources, List.length_map]
    exact Nat.le_trans (List.length_filter_le _ _) (Nat.le_of_eq List.length_reverse)
  rw [visit, List.length_append, List.length_reverse]
  exact Nat.add_le_add_right (Nat.le_trans (List.length_filter_le _ _) hsources) _

/-- A bound on the turns that a search has left: one for what stands on the stack, and for each type
that is not visited one for all that its visit can put there, and for the visit. -/
def turnsLeft (g : ConversionGraph) (s : Search) : Nat :=
  s.unvisited.length * (g.edges.length + 1) + s.stack.length

/-- Each turn leaves fewer turns. -/
theorem turnsLeft_lt {g : ConversionGraph} {s s' : Search} (h : s.turn? g = some s') :
    s'.turnsLeft g < s.turnsLeft g := by
  obtain ⟨next, rest, hstack, ⟨-, rfl⟩ | ⟨hnext, rfl⟩⟩ := turn?_eq_some_iff.mp h
  · simp [turnsLeft, unvisited, hstack]
  · have hvisits := Nat.mul_le_mul_right (g.edges.length + 1)
      (length_unvisited_visit (g := g) hnext rest)
    have hstack' := length_stack_visit g s next rest
    rw [Nat.succ_mul] at hvisits
    rw [turnsLeft, turnsLeft, hstack, List.length_cons]
    omega

/-- The search after all its turns. -/
def run (g : ConversionGraph) (s : Search) : Search :=
  match _ : s.turn? g with
  | none => s
  | some s' => s'.run g
termination_by s.turnsLeft g
decreasing_by exact turnsLeft_lt ‹_›

end Search

/-- The types other than the target from which a path leads to it, in order. -/
def upstream (g : ConversionGraph) (target : DamageType) : List DamageType :=
  let reached := ((Search.start target).run g).reached
  (DamageType.sorted reached).eraseReps.filter (· != target)

end ConversionGraph

/-- The types whose damage can end up as another through positive conversions. -/
def inheritanceChain {ν : Type} [Scalar ν] (final : DamageType) (m : ConversionMatrix ν) :
    List DamageType :=
  (ConversionGraph.ofMatrix m).upstream final

end Loadout
