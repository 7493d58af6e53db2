import Loadout.Proofs.Resolution.Visits

/-!
# Following a resolver step by step

A resolver in the middle of a resolution is its ground with the kept answers, the stack and the
mark. Activations take it from one such state to another, so a resolution can be followed by
hand.

This is done for a cycle of strength, a guard and life, in which an override decides whether
strength is asked for. Life is overridden unless the guard is up, the guard is up only while life is
low, and strength, which feeds life, counts only while the guard is up. Strength asked for first
comes to nothing, and this is kept. What life comes to depends on whether it is.

## Main definitions

* `Resolver.during`: a resolver in the middle of a resolution
* `Resolver.Gives`: an activation gives a stat a value
* `Ground.Guarded`: strength, the guard and life depend on each other

## Main results

* `Resolver.Gives.below`, `Resolver.Gives.itself`, `Resolver.Gives.keeps`: an activation that asks
  for one stat, by what was met on the way
* `Ground.Guarded.strength`: strength asked for first
* `Ground.Guarded.life`, `Ground.Guarded.life_after`: life without and with strength kept
-/

namespace Loadout

variable {ν : Type}

@[simp]
theorem Ground.defaultKey_inj {g : Ground ν} {stat other : String} :
    g.defaultKey stat = g.defaultKey other ↔ stat = other := by
  simp only [defaultKey, ResolverKey.mk.injEq, and_true]

/-- With certain values of other stats a stat asks for certain of them and comes to a value. -/
def Ground.ComesTo [Scalar ν] (g : Ground ν) (stat : String) (value : String → ν)
    (asked : List String) (x : ν) : Prop :=
  g.consulted (g.defaultKey stat) value = asked ∧ (g.settle (g.defaultKey stat) value).value = x

namespace Resolver

/-! ### Activations -/

/-- A resolver with certain kept answers, stack and mark. -/
def during (g : Ground ν) (kept : Std.HashMap ResolverKey (Resolved ν)) (stack : List ResolverKey)
    (floor : Option Nat) : Resolver ν :=
  ⟨g.store, g.defaults, kept, stack, floor⟩

/-- Within a budget an activation gives a stat a value and leaves a resolver. -/
def Gives [Scalar ν] (bound : Nat) (r : Resolver ν) (stat : String) (x : ν) (r' : Resolver ν) :
    Prop :=
  ∃ answer, visit? bound r (r.defaultKey stat) = some (answer, r') ∧ answer.value = x

variable {g : Ground ν} {kept : Std.HashMap ResolverKey (Resolved ν)} {stack : List ResolverKey}
  {floor : Option Nat}

/-- A key whose answer rests on a zero for a key below it is not kept, and the mark stays. -/
theorem finish_during {f : Nat} (hf : f < stack.length) (key : ResolverKey) (answer : Resolved ν) :
    (during g kept (key :: stack) (some f)).finish key answer = during g kept stack (some f) := by
  have hne : f ≠ stack.length := Nat.ne_of_lt hf
  simp only [finish, during, List.drop_one, List.tail_cons, if_neg hne, if_pos hf]

/-- A key whose answer rests on a zero for itself is not kept, and the mark goes. -/
theorem finish_during_self (key : ResolverKey) (answer : Resolved ν) :
    (during g kept (key :: stack) (some stack.length)).finish key answer =
      during g kept stack none := by
  simp only [finish, during, List.drop_one, List.tail_cons, if_true]

variable [Scalar ν] {bound : Nat} {stat other : String} {value : String → ν} {x y : ν}

omit [Scalar ν] in
theorem getElem?_insert_empty (h : stat ≠ other) (answer : Resolved ν) :
    (Std.HashMap.insert (∅ : Std.HashMap ResolverKey (Resolved ν)) (g.defaultKey stat) answer)[
      g.defaultKey other]? = none := by
  rw [Std.HashMap.getElem?_insert, if_neg (by simpa using h), Std.HashMap.getElem?_empty]

theorem gives_of_kept {answer : Resolved ν} (hkept : kept[g.defaultKey stat]? = some answer)
    (bound : Nat) : Gives bound (during g kept stack floor) stat answer.value
      (during g kept stack floor) :=
  ⟨answer, visit?_of_kept hkept bound, rfl⟩

theorem gives_of_mem (hkept : kept[g.defaultKey stat]? = none) (hmem : g.defaultKey stat ∈ stack)
    (hfloor : floor = none ∨ floor = some (depthIn stack (g.defaultKey stat))) (bound : Nat) :
    Gives bound (during g kept stack floor) stat Scalar.zero
      (during g kept stack (some (depthIn stack (g.defaultKey stat)))) := by
  have hmeet : (during g kept stack floor).meetAgain (depthIn stack (g.defaultKey stat)) =
      during g kept stack (some (depthIn stack (g.defaultKey stat))) := by
    rcases hfloor with rfl | rfl <;> simp only [meetAgain, during, Nat.min_self]
  rw [← hmeet]
  exact ⟨.nothing stat, visit?_of_mem hkept hmem bound, rfl⟩

theorem Gives.gather_cons {r r₁ r₂ : Resolver ν} {rest : List String} {values : List ν}
    (h : Gives bound r stat x r₁) (hrest : gather (visit? bound) rest r₁ = some (values, r₂)) :
    gather (visit? bound) (stat :: rest) r = some (x :: values, r₂) := by
  obtain ⟨answer, hvisit, rfl⟩ := h
  simp only [gather, hvisit, hrest, Option.bind_eq_bind, Option.bind_some, Option.pure_def]

theorem visit?_during {asked : List String} {r : Resolver ν}
    (hkept : kept[g.defaultKey stat]? = none) (hkey : g.defaultKey stat ∉ stack)
    (hask : g.ComesTo stat value asked x)
    (hgather : gather (visit? bound) asked (during g kept (g.defaultKey stat :: stack) floor) =
      some (asked.map value, r)) :
    ∃ answer : Resolved ν, answer.value = x ∧
      visit? (bound + 1) (during g kept stack floor) (g.defaultKey stat) =
        some (answer, r.finish (g.defaultKey stat) answer) := by
  obtain ⟨rfl, rfl⟩ := hask
  exact ⟨_, rfl, visit?_eq_settle (g := g) rfl hkept hkey hgather⟩

namespace Gives

variable (hkept : kept[g.defaultKey stat]? = none) (hkey : g.defaultKey stat ∉ stack)
  (hask : g.ComesTo stat (fun _ => x) [other] y)
include hkept hkey hask

/-- A stat that asks for one other, while a key below it is met. -/
theorem below {f : Nat} (h : Gives bound (during g kept (g.defaultKey stat :: stack) floor) other x
    (during g kept (g.defaultKey stat :: stack) (some f))) (hf : f < stack.length) :
    Gives (bound + 1) (during g kept stack floor) stat y (during g kept stack (some f)) := by
  obtain ⟨answer, hvalue, hvisit⟩ := visit?_during hkept hkey hask (h.gather_cons rfl)
  rw [finish_during hf] at hvisit
  exact ⟨answer, hvisit, hvalue⟩

/-- A stat that asks for one other, while it is met itself. -/
theorem itself (h : Gives bound (during g kept (g.defaultKey stat :: stack) floor) other x
    (during g kept (g.defaultKey stat :: stack) (some stack.length))) :
    Gives (bound + 1) (during g kept stack floor) stat y (during g kept stack none) := by
  obtain ⟨answer, hvalue, hvisit⟩ := visit?_during hkept hkey hask (h.gather_cons rfl)
  rw [finish_during_self] at hvisit
  exact ⟨answer, hvisit, hvalue⟩

/-- A stat that asks for one other, while nothing is met. -/
theorem keeps (h : Gives bound (during g kept (g.defaultKey stat :: stack) floor) other x
    (during g kept (g.defaultKey stat :: stack) none)) :
    ∃ answer : Resolved ν, answer.value = y ∧
      Gives (bound + 1) (during g kept stack floor) stat y
        (during g (kept.insert (g.defaultKey stat) answer) stack none) := by
  obtain ⟨answer, hvalue, hvisit⟩ := visit?_during hkept hkey hask (h.gather_cons rfl)
  exact ⟨answer, hvalue, answer, hvisit, hvalue⟩

end Gives

theorem Gives.value_eq {r : Resolver ν} (h : Gives g.budget (during g kept [] none) stat x r) :
    (during g kept [] none).value stat = (x, r) := by
  obtain ⟨answer, hvisit, rfl⟩ := h
  have hresolve : (during g kept [] none).resolve stat = (answer, r) :=
    congrArg (Option.getD · _) hvisit
  rw [value, hresolve]

end Resolver

/-! ### The guard -/

/-- Strength counts while the guard is up, the guard is up while life is low, and life is overridden
without asking for strength unless the guard is up. -/
structure Ground.Guarded (g : Ground Rat) : Prop where
  strength_down : g.ComesTo "Strength" (fun _ => 0) ["Guard"] 0
  strength_up : g.ComesTo "Strength" (fun _ => 1) ["Guard"] 2
  guard_low : g.ComesTo "Guard" (fun _ => 0) ["Life"] 1
  guard_high : g.ComesTo "Guard" (fun _ => 5) ["Life"] 0
  life_down : g.ComesTo "Life" (fun _ => 0) ["Guard"] 5
  life_weak : g.ComesTo "Life" (fun stat => if stat = "Guard" then 1 else 0)
    ["Guard", "Strength"] 0
  life_strong : g.ComesTo "Life" (fun stat => if stat = "Guard" then 1 else 2)
    ["Guard", "Strength"] 1

namespace Ground.Guarded

open Resolver

variable {g : Ground Rat} {kept : Std.HashMap ResolverKey (Resolved Rat)}
  {stack : List ResolverKey} {floor : Option Nat}

/-- While life is being resolved it counts as low, so the guard is up. -/
theorem guard (h : g.Guarded) (bound : Nat) (hguard : kept[g.defaultKey "Guard"]? = none)
    (hlife : kept[g.defaultKey "Life"]? = none) (hstack : g.defaultKey "Guard" ∉ stack)
    (hmem : g.defaultKey "Life" ∈ stack)
    (hfloor : floor = none ∨ floor = some (depthIn stack (g.defaultKey "Life"))) :
    Gives (bound + 1) (during g kept stack floor) "Guard" 1
      (during g kept stack (some (depthIn stack (g.defaultKey "Life")))) := by
  refine .below hguard hstack h.guard_low ?_ (depthIn_lt hmem)
  have hdepth : depthIn (g.defaultKey "Guard" :: stack) (g.defaultKey "Life") =
      depthIn stack (g.defaultKey "Life") := depthIn_cons_of_mem hmem
  rw [← hdepth] at hfloor ⊢
  exact gives_of_mem hlife (List.mem_cons_of_mem _ hmem) hfloor bound

/-- Life asks for strength, because the guard is up. -/
private theorem life_of_strength (h : g.Guarded) {bound : Nat} {x y : Rat}
    (hask : g.ComesTo "Life" (fun stat => if stat = "Guard" then 1 else x) ["Guard", "Strength"] y)
    (hguard : kept[g.defaultKey "Guard"]? = none) (hlife : kept[g.defaultKey "Life"]? = none)
    (hguard' : g.defaultKey "Guard" ∉ stack) (hlife' : g.defaultKey "Life" ∉ stack)
    (hstrength : Gives (bound + 1)
      (during g kept (g.defaultKey "Life" :: stack) (some stack.length)) "Strength" x
      (during g kept (g.defaultKey "Life" :: stack) (some stack.length))) :
    Gives (bound + 2) (during g kept stack none) "Life" y (during g kept stack none) := by
  have hup : Gives (bound + 1) (during g kept (g.defaultKey "Life" :: stack) none) "Guard" 1
      (during g kept (g.defaultKey "Life" :: stack) (some stack.length)) := by
    rw [← depthIn_cons_self hlife']
    exact h.guard bound hguard hlife (List.not_mem_cons_of_ne_of_not_mem (by simp) hguard')
      List.mem_cons_self (.inl rfl)
  obtain ⟨answer, hvalue, hvisit⟩ :=
    visit?_during hlife hlife' hask (hup.gather_cons (hstrength.gather_cons rfl))
  rw [finish_during_self] at hvisit
  exact ⟨answer, hvisit, hvalue⟩

/-- Life, when strength is kept as nothing. -/
theorem life_after (h : g.Guarded) (bound : Nat) {answer : Resolved Rat}
    (hanswer : answer.value = 0) (hguard' : g.defaultKey "Guard" ∉ stack)
    (hlife' : g.defaultKey "Life" ∉ stack) :
    Gives (bound + 2) (during g (.insert ∅ (g.defaultKey "Strength") answer) stack none) "Life" 0
      (during g (.insert ∅ (g.defaultKey "Strength") answer) stack none) := by
  refine h.life_of_strength h.life_weak (getElem?_insert_empty (by decide) answer)
    (getElem?_insert_empty (by decide) answer) hguard' hlife' ?_
  rw [← hanswer]
  exact gives_of_kept Std.HashMap.getElem?_insert_self (bound + 1)

/-- Life, when nothing is kept: inside its resolution the guard is up, and strength counts. -/
theorem life (h : g.Guarded) (bound : Nat) (hguard' : g.defaultKey "Guard" ∉ stack)
    (hlife' : g.defaultKey "Life" ∉ stack) (hstrength' : g.defaultKey "Strength" ∉ stack) :
    Gives (bound + 3) (during g ∅ stack none) "Life" 1 (during g ∅ stack none) := by
  have hempty (stat : String) :
      (∅ : Std.HashMap ResolverKey (Resolved Rat))[g.defaultKey stat]? = none :=
    Std.HashMap.getElem?_empty
  refine h.life_of_strength h.life_strong (hempty _) (hempty _) hguard' hlife' ?_
  refine .below (hempty _) (List.not_mem_cons_of_ne_of_not_mem (by simp) hstrength')
    h.strength_up ?_ (Nat.lt_succ_self _)
  have hdepth : depthIn (g.defaultKey "Strength" :: g.defaultKey "Life" :: stack)
      (g.defaultKey "Life") = stack.length := by
    rw [depthIn_cons_of_mem List.mem_cons_self, depthIn_cons_self hlife']
  rw [← hdepth]
  exact h.guard bound (hempty _) (hempty _) (by simpa using hguard')
    (List.mem_cons_of_mem _ List.mem_cons_self) (.inr rfl)

/-- Strength, asked for first: the guard is met again while life is resolved, so life is overridden
without asking for strength, and the guard is down. Strength is nothing, and this is kept. -/
theorem strength (h : g.Guarded) (bound : Nat) :
    ∃ answer : Resolved Rat, answer.value = 0 ∧
      Gives (bound + 3) (during g ∅ [] none) "Strength" 0
        (during g (.insert ∅ (g.defaultKey "Strength") answer) [] none) := by
  have hempty (stat : String) :
      (∅ : Std.HashMap ResolverKey (Resolved Rat))[g.defaultKey stat]? = none :=
    Std.HashMap.getElem?_empty
  refine Gives.keeps (hempty _) List.not_mem_nil h.strength_down ?_
  refine .itself (hempty _) (by simp) h.guard_high ?_
  refine .below (hempty _) (by simp) h.life_down ?_ (Nat.lt_succ_self 1)
  have hdepth : depthIn [g.defaultKey "Life", g.defaultKey "Guard", g.defaultKey "Strength"]
      (g.defaultKey "Guard") = [g.defaultKey "Strength"].length := by
    rw [depthIn_cons_of_mem List.mem_cons_self, depthIn_cons_self (by simp)]
  rw [← hdepth]
  exact gives_of_mem (hempty "Guard") (by simp) (.inl rfl) bound

end Ground.Guarded

end Loadout
