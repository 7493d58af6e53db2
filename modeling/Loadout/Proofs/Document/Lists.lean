import Mathlib.Data.List.Forall2
import Mathlib.Data.Option.Basic

/-!
# Lists that are read member by member

Reading a list succeeds when reading each of its members does, and what comes out stands in the
places of what it was read from.

## Main results

* `mapM_eq_some_iff`, `mapM_eq_ok_iff`: what a list is read as
* `mapM_range_getElem?`, `getElem?_of_mapM_eq_some`: a list is read by its positions
* `exists_foldlM_eq_some`, `of_foldlM_eq_some`: loops that succeed, and what they keep
-/

namespace Loadout

variable {ε α β : Type}

theorem mapM_eq_some_iff {f : α → Option β} {as : List α} {bs : List β} :
    as.mapM f = some bs ↔ List.Forall₂ (fun a b => f a = some b) as bs := by
  induction as generalizing bs with
  | nil => simp [eq_comm]
  | cons a as ih =>
    simp only [List.mapM_cons, List.forall₂_cons_left_iff, Option.bind_eq_bind,
      Option.bind_eq_some_iff, ih, Option.pure_def, Option.some.injEq]
    constructor
    · rintro ⟨b, hb, more, hmore, rfl⟩
      exact ⟨b, more, hb, hmore, rfl⟩
    · rintro ⟨b, more, hb, hmore, rfl⟩
      exact ⟨b, hb, more, hmore, rfl⟩

/-- What stands at a position was read from what stands there. -/
theorem getElem?_of_mapM_eq_some {f : α → Option β} {as : List α} {bs : List β}
    (h : as.mapM f = some bs) (i : Nat) : bs[i]? = as[i]?.bind f := by
  rw [mapM_eq_some_iff] at h
  induction h generalizing i with
  | nil => rfl
  | cons hab _ ih =>
    cases i with
    | zero => exact hab.symm
    | succ i => exact ih i

theorem mapM_eq_none_iff {f : α → Option β} {as : List α} :
    as.mapM f = none ↔ ∃ a ∈ as, f a = none := by
  induction as with
  | nil => simp
  | cons a as ih =>
    simp only [List.mapM_cons, List.mem_cons, exists_eq_or_imp, ← ih]
    cases f a with
    | none => simp
    | some b => cases as.mapM f <;> simp

/-- Reading what stands at each position of a list is reading the list. -/
theorem mapM_range_getElem? (f : α → Option β) (as : List α) :
    ((List.range as.length).mapM fun i => as[i]?.bind f) = as.mapM f := by
  induction as with
  | nil => rfl
  | cons a as ih =>
    rw [List.length_cons, List.range_succ_eq_map, List.mapM_cons, List.mapM_map, List.mapM_cons,
      ← ih]
    rfl

/-- A loop that keeps an invariant succeeds when each of its rounds does. -/
theorem exists_foldlM_eq_some {f : β → α → Option β} {as : List α} {I : β → Prop}
    (h : ∀ b, I b → ∀ a ∈ as, ∃ b', f b a = some b' ∧ I b') {b : β} (hb : I b) :
    ∃ b', as.foldlM f b = some b' ∧ I b' := by
  induction as generalizing b with
  | nil => exact ⟨b, rfl, hb⟩
  | cons a as ih =>
    obtain ⟨mid, hstep, hmid⟩ := h b hb a List.mem_cons_self
    obtain ⟨b', hrest, hkept⟩ := ih (fun b hb a ha => h b hb a (List.mem_cons_of_mem _ ha)) hmid
    exact ⟨b', by rw [List.foldlM_cons, hstep]; exact hrest, hkept⟩

/-- A loop that succeeds keeps what each of its rounds keeps. -/
theorem of_foldlM_eq_some {f : β → α → Option β} {as : List α} {I : β → Prop}
    (h : ∀ b, I b → ∀ a ∈ as, ∀ b', f b a = some b' → I b') {b b' : β} (hb : I b)
    (hloop : as.foldlM f b = some b') : I b' := by
  induction as generalizing b with
  | nil => exact Option.some.inj hloop ▸ hb
  | cons a as ih =>
    rw [List.foldlM_cons] at hloop
    obtain ⟨mid, hstep, hrest⟩ := Option.bind_eq_some_iff.1 hloop
    exact ih (fun b hb a ha => h b hb a (List.mem_cons_of_mem _ ha))
      (h b hb a List.mem_cons_self mid hstep) hrest

theorem foldlM_eq_some_mono {f g : β → α → Option β} {as : List α}
    (h : ∀ b, ∀ a ∈ as, ∀ b', f b a = some b' → g b a = some b') {b b' : β}
    (hloop : as.foldlM f b = some b') : as.foldlM g b = some b' := by
  induction as generalizing b with
  | nil => exact hloop
  | cons a as ih =>
    rw [List.foldlM_cons] at hloop ⊢
    obtain ⟨mid, hstep, hrest⟩ := Option.bind_eq_some_iff.1 hloop
    rw [h b a List.mem_cons_self mid hstep]
    exact ih (fun b a ha => h b a (List.mem_cons_of_mem _ ha)) hrest

/-- A loop fails with a round that always does. -/
theorem foldlM_eq_none {f : β → α → Option β} {as : List α} {a : α} (ha : a ∈ as)
    (h : ∀ b, f b a = none) (b : β) : as.foldlM f b = none := by
  obtain ⟨before, after, rfl⟩ := List.append_of_mem ha
  rw [List.foldlM_append]
  refine Option.bind_eq_none_iff.2 fun mid _ => ?_
  rw [List.foldlM_cons, h mid]
  rfl

theorem exists_eq_ok_of_toBool {x : Except ε α} (h : x.toBool = true) : ∃ a, x = .ok a := by
  cases x with
  | error fault => cases h
  | ok a => exact ⟨a, rfl⟩

theorem bind_eq_ok_iff {x : Except ε α} {f : α → Except ε β} {b : β} :
    (x >>= f) = .ok b ↔ ∃ a, x = .ok a ∧ f a = .ok b := by
  cases x with
  | error fault => exact iff_of_false nofun nofun
  | ok a => exact ⟨fun h => ⟨a, rfl, h⟩, fun ⟨_, ha, h⟩ => by cases ha; exact h⟩

theorem mapM_eq_ok_iff {f : α → Except ε β} {as : List α} {bs : List β} :
    as.mapM f = .ok bs ↔ List.Forall₂ (fun a b => f a = .ok b) as bs := by
  induction as generalizing bs with
  | nil =>
    rw [List.mapM_nil, List.forall₂_nil_left_iff]
    exact ⟨fun h => (Except.ok.inj h).symm, fun h => by rw [h]; rfl⟩
  | cons a as ih =>
    simp only [List.mapM_cons, bind_eq_ok_iff, List.forall₂_cons_left_iff, ih]
    constructor
    · rintro ⟨b, hb, more, hmore, h⟩
      exact ⟨b, more, hb, hmore, (Except.ok.inj h).symm⟩
    · rintro ⟨b, more, hb, hmore, rfl⟩
      exact ⟨b, hb, more, hmore, rfl⟩

theorem exists_of_forall₂ {R : α → β → Prop} {as : List α} {bs : List β}
    (h : List.Forall₂ R as bs) {b : β} (hb : b ∈ bs) : ∃ a ∈ as, R a b := by
  induction h with
  | nil => cases hb
  | cons hab _ ih =>
    rcases List.mem_cons.1 hb with rfl | hb
    · exact ⟨_, List.mem_cons_self, hab⟩
    · obtain ⟨a, ha, hab⟩ := ih hb
      exact ⟨a, List.mem_cons_of_mem _ ha, hab⟩

end Loadout
