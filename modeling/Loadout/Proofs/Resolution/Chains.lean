import Mathlib.Data.List.Perm.Subperm
import Mathlib.Logic.Relation
import Loadout.Proofs.Resolution.Ground

/-!
# Resolving without keeping answers

A stat that is met again on the stack counts as zero, so what a key resolves to depends on the
stack. Without kept answers it depends on nothing else. An answer that met no key of the stack
is the same on every stack, which is why it may be kept.

The keys on a stack are different, and all but the outermost are default keys of stats that a
condition or an attribute rule mentions. So there is a bound on the length of a stack.

## Main definitions

* `Ground.afresh`: what a key resolves to on a stack, without kept answers
* `Ground.Meets`: a key of the stack is met again on the way
* `Ground.Reached`: the stacks on which a key can be asked for

## Main results

* `Ground.Reached.length_lt_budget`: the bound on the length of a stack
* `Ground.afresh_eq`: a key that is not on the stack is settled with the values of the others
* `Ground.Reached.afresh_eq_alone`, `Ground.Reached.meets_iff_alone`: an answer that met nothing
  below is the answer to its key asked alone
-/

namespace Loadout

variable {ν : Type} [Scalar ν]

theorem AttributeRule.mem_map_source_all {stat : String} :
    stat ∈ (all : List (AttributeRule ν)).map (·.source) ↔ stat ∈ coreAttributes := by
  have hsources : (all : List (AttributeRule ν)).map (·.source) =
      ["Strength", "Strength", "Dexterity", "Dexterity", "Intelligence", "Intelligence"] := rfl
  rw [hsources]
  simp only [coreAttributes, List.mem_cons, List.not_mem_nil, or_false, or_self, or_self_left]

namespace Ground

variable (g : Ground ν)

/-! ### Answers without kept ones -/

/-- A budget of nested activations that no call uses up. -/
def budget : Nat :=
  1 + g.store.size + coreAttributes.length

/-- What a key resolves to on a stack, with a bound on the activations that are nested. -/
def afreshWithin : Nat → List ResolverKey → ResolverKey → Resolved ν
  | 0, _, key => .nothing key.stat
  | bound + 1, stack, key =>
    if key ∈ stack then .nothing key.stat
    else g.settle key fun stat => (afreshWithin bound (key :: stack) (g.defaultKey stat)).value

/-- What a key resolves to on a stack, innermost key first, when nothing is kept. -/
def afresh (stack : List ResolverKey) (key : ResolverKey) : Resolved ν :=
  g.afreshWithin (g.budget - stack.length) stack key

/-- The values that other stats have while a key is resolved on a stack. -/
def valuesBelow (stack : List ResolverKey) (key : ResolverKey) (stat : String) : ν :=
  (g.afresh (key :: stack) (g.defaultKey stat)).value

/-- The stats that a key asks for when it is resolved on a stack. -/
def asks (stack : List ResolverKey) (key : ResolverKey) : List String :=
  g.consulted key (g.valuesBelow stack key)

/-- Resolving a key on a stack meets a key again that is then on the stack. -/
inductive Meets : List ResolverKey → ResolverKey → ResolverKey → Prop
  | again {stack : List ResolverKey} {key : ResolverKey} (h : key ∈ stack) : Meets stack key key
  | ask {stack : List ResolverKey} {key met : ResolverKey} {stat : String} (hkey : key ∉ stack)
      (hstat : stat ∈ g.asks stack key) (h : Meets (key :: stack) (g.defaultKey stat) met) :
      Meets stack key met

/-- A key can be asked for on a stack. Where the stat of an activation is in a region, it asks only
for the stats that it asks for afresh; elsewhere kept answers may have led it to any stat that
it reads. -/
inductive Reached (region : String → Prop) : List ResolverKey → ResolverKey → Prop
  | top (key : ResolverKey) : Reached region [] key
  | ask {stack : List ResolverKey} {key : ResolverKey} {stat : String}
      (h : Reached region stack key) (hkey : key ∉ stack) (hreads : g.Reads key.stat stat)
      (hasks : region key.stat → stat ∈ g.asks stack key) :
      Reached region (key :: stack) (g.defaultKey stat)

/-- A region that holds every stat that its stats read. -/
def Closed (region : String → Prop) : Prop :=
  ∀ stat other, region stat → g.Reads stat other → region other

variable {g}

theorem afresh_of_mem {stack : List ResolverKey} {key : ResolverKey} (h : key ∈ stack) :
    g.afresh stack key = .nothing key.stat := by
  unfold afresh
  cases g.budget - stack.length with
  | zero => rfl
  | succ bound => rw [afreshWithin, if_pos h]

/-- Below the bound a key that is not on the stack is settled with the values that others have
above it. -/
theorem afresh_eq {stack : List ResolverKey} {key : ResolverKey} (hkey : key ∉ stack)
    (hlength : stack.length < g.budget) :
    g.afresh stack key = g.settle key (g.valuesBelow stack key) := by
  obtain ⟨bound, hbound⟩ : ∃ bound, g.budget - stack.length = bound + 1 :=
    ⟨g.budget - stack.length - 1, by omega⟩
  have hnext : g.budget - (key :: stack).length = bound := by
    rw [List.length_cons]
    omega
  rw [afresh, hbound, afreshWithin, if_neg hkey]
  congr 1
  funext stat
  rw [valuesBelow, afresh, hnext]

/-- What can be met: the key itself on the stack, or what the stats that it asks for meet. -/
theorem meets_iff {stack : List ResolverKey} {key met : ResolverKey} :
    g.Meets stack key met ↔ (key ∈ stack ∧ met = key) ∨
      (key ∉ stack ∧ ∃ stat ∈ g.asks stack key,
        g.Meets (key :: stack) (g.defaultKey stat) met) := by
  constructor
  · intro h
    cases h with
    | again h => exact .inl ⟨h, rfl⟩
    | ask hkey hstat h => exact .inr ⟨hkey, _, hstat, h⟩
  · rintro (⟨h, rfl⟩ | ⟨hkey, stat, hstat, h⟩)
    · exact .again h
    · exact .ask hkey hstat h

theorem meets_iff_of_mem {stack : List ResolverKey} {key met : ResolverKey} (h : key ∈ stack) :
    g.Meets stack key met ↔ met = key := by
  rw [meets_iff]
  simp only [h, true_and, not_true, false_and, or_false]

theorem meets_iff_of_notMem {stack : List ResolverKey} {key met : ResolverKey}
    (h : key ∉ stack) :
    g.Meets stack key met ↔
      ∃ stat ∈ g.asks stack key, g.Meets (key :: stack) (g.defaultKey stat) met := by
  rw [meets_iff]
  simp only [h, false_and, false_or, not_false_eq_true, true_and]

theorem Meets.reads {stack : List ResolverKey} {key met : ResolverKey}
    (h : g.Meets stack key met) : Relation.ReflTransGen g.Reads key.stat met.stat := by
  induction h with
  | again h => exact .refl
  | ask hkey hstat h ih => exact .head (reads_of_mem_consulted hstat) ih

theorem Meets.reads_of_notMem {stack : List ResolverKey} {key met : ResolverKey}
    (h : g.Meets stack key met) (hkey : key ∉ stack) :
    Relation.TransGen g.Reads key.stat met.stat := by
  obtain ⟨stat, hstat, hmeets⟩ := (meets_iff_of_notMem hkey).mp h
  exact .head' (reads_of_mem_consulted hstat) hmeets.reads

/-! ### Stacks -/

namespace Reached

variable {region : String → Prop} {stack : List ResolverKey} {key : ResolverKey}

theorem ask_afresh {stat : String} (h : g.Reached region stack key) (hkey : key ∉ stack)
    (hstat : stat ∈ g.asks stack key) :
    g.Reached region (key :: stack) (g.defaultKey stat) :=
  h.ask hkey (reads_of_mem_consulted hstat) fun _ => hstat

theorem reads (h : g.Reached region stack key) :
    ∀ other ∈ stack, Relation.TransGen g.Reads other.stat key.stat := by
  induction h with
  | top key => exact fun other hother => absurd hother List.not_mem_nil
  | ask h hkey hreads hasks ih =>
    intro other hother
    rcases List.mem_cons.mp hother with rfl | hother
    · exact .single hreads
    · exact (ih other hother).tail hreads

theorem nodup (h : g.Reached region stack key) : stack.Nodup := by
  induction h with
  | top key => exact .nil
  | ask h hkey hreads hasks ih => exact List.nodup_cons.mpr ⟨hkey, ih⟩

end Reached

variable (g) in
/-- The stats that some condition or some attribute rule mentions. -/
def mentioned : List String :=
  (g.store.toList.filterMap fun m => m.condition.bind Condition.stat?) ++ coreAttributes

omit [Scalar ν] in
theorem length_mentioned_le : g.mentioned.length ≤ g.store.size + coreAttributes.length := by
  rw [mentioned, List.length_append]
  exact Nat.add_le_add_right (List.length_filterMap_le _ _) _

theorem mem_mentioned_of_reads {stat other : String} (h : g.Reads stat other) :
    other ∈ g.mentioned := by
  rw [mentioned, List.mem_append]
  rcases h with ⟨m, hm, hdep, -⟩ | ⟨rule, hrule, -, rfl⟩
  · obtain ⟨i, -, hi⟩ := List.mem_filterMap.mp hm
    exact .inl (List.mem_filterMap.mpr ⟨m, Array.mem_toList_iff.mpr (Array.mem_of_getElem? hi),
      hdep⟩)
  · exact .inr (AttributeRule.mem_map_source_all.mp (List.mem_map_of_mem hrule))

theorem mem_mentioned_of_reaches {stat other : String}
    (h : Relation.ReflTransGen g.Reads stat other) : other ∈ stat :: g.mentioned := by
  cases h with
  | refl => exact List.mem_cons_self
  | tail _ hreads => exact List.mem_cons_of_mem _ (mem_mentioned_of_reads hreads)

/-- All keys of a stack but the outermost are default keys of mentioned stats, and so is the key
that is asked for on it, unless the stack is empty. -/
theorem Reached.mem_mentioned {region : String → Prop} {stack : List ResolverKey}
    {key : ResolverKey} (h : g.Reached region stack key) :
    ∀ other ∈ (key :: stack).dropLast, other ∈ g.mentioned.map g.defaultKey := by
  induction h with
  | top key => exact fun other hother => absurd hother List.not_mem_nil
  | ask h hkey hreads hasks ih =>
    intro other hother
    rw [List.dropLast_cons_of_ne_nil (List.cons_ne_nil _ _)] at hother
    rcases List.mem_cons.mp hother with rfl | hother
    · exact List.mem_map_of_mem (mem_mentioned_of_reads hreads)
    · exact ih other hother

/-- A stack on which one more key is pushed is shorter than the budget. -/
theorem Reached.length_lt_budget {region : String → Prop} {stack : List ResolverKey}
    {key : ResolverKey} (h : g.Reached region stack key) (hkey : key ∉ stack) :
    stack.length < g.budget := by
  have hnodup : (key :: stack).dropLast.Nodup :=
    (List.nodup_cons.mpr ⟨hkey, h.nodup⟩).sublist (List.dropLast_sublist _)
  have hle := (hnodup.subperm h.mem_mentioned).length_le
  rw [List.length_dropLast, List.length_cons, List.length_map] at hle
  have hmentioned := g.length_mentioned_le
  rw [budget]
  omega

/-! ### Answers that met nothing below -/

/-- An answer that met nothing of the lower part of a stack is the same, and met the same, without
that part. -/
private theorem Reached.append {region : String → Prop} {upper lower : List ResolverKey}
    {key : ResolverKey} (h : g.Reached region (upper ++ lower) key)
    (hmeets : ∀ met ∈ lower, ¬ g.Meets (upper ++ lower) key met) :
    g.afresh (upper ++ lower) key = g.afresh upper key ∧
      ∀ met, g.Meets (upper ++ lower) key met ↔ g.Meets upper key met := by
  -- The induction is on what is left of the budget, so on nested activations.
  induction hbound : g.budget - (upper ++ lower).length using Nat.strongRecOn
    generalizing upper key with
  | ind bound ih =>
    by_cases hkey : key ∈ upper ++ lower
    · have hlower : key ∉ lower := fun hmem => hmeets key hmem (.again hkey)
      have hupper : key ∈ upper := (List.mem_append.mp hkey).resolve_right hlower
      refine ⟨?_, fun met => ?_⟩
      · rw [afresh_of_mem hkey, afresh_of_mem hupper]
      · rw [meets_iff_of_mem hkey, meets_iff_of_mem hupper]
    · have hupper : key ∉ upper := fun hmem => hkey (List.mem_append_left _ hmem)
      have hlength := h.length_lt_budget hkey
      have hshorter : upper.length < g.budget := by
        rw [List.length_append] at hlength
        omega
      have hbelow (stat : String) (hstat : stat ∈ g.asks (upper ++ lower) key) :
          g.afresh (key :: (upper ++ lower)) (g.defaultKey stat) =
              g.afresh (key :: upper) (g.defaultKey stat) ∧
            ∀ met, g.Meets (key :: (upper ++ lower)) (g.defaultKey stat) met ↔
              g.Meets (key :: upper) (g.defaultKey stat) met := by
        refine ih (g.budget - (key :: upper ++ lower).length) ?_
          (h.ask_afresh hkey hstat) (fun met hmet hmeets' => ?_) rfl
        · rw [List.cons_append, List.length_cons]
          omega
        · exact hmeets met hmet (.ask hkey hstat hmeets')
      have hvalues (stat : String) (hstat : stat ∈ g.asks (upper ++ lower) key) :
          g.valuesBelow (upper ++ lower) key stat = g.valuesBelow upper key stat := by
        rw [valuesBelow, valuesBelow, (hbelow stat hstat).1]
      have hasks : g.asks (upper ++ lower) key = g.asks upper key := consulted_congr hvalues
      refine ⟨?_, fun met => ?_⟩
      · rw [afresh_eq hkey hlength, afresh_eq hupper hshorter, settle_congr hvalues]
      · rw [meets_iff_of_notMem hkey, meets_iff_of_notMem hupper, ← hasks]
        exact exists_congr fun stat => and_congr_right fun hstat => (hbelow stat hstat).2 met

namespace Reached

variable {region : String → Prop} {stack : List ResolverKey} {key : ResolverKey}

/-- An answer that met nothing below it is the answer to its key asked alone. -/
theorem afresh_eq_alone (h : g.Reached region stack key)
    (hmeets : ∀ met ∈ stack, ¬ g.Meets stack key met) : g.afresh stack key = g.afresh [] key :=
  (append (show g.Reached region ([] ++ stack) key from h) hmeets).1

/-- An answer that met nothing below it met what its key meets when it is asked alone. -/
theorem meets_iff_alone (h : g.Reached region stack key)
    (hmeets : ∀ met ∈ stack, ¬ g.Meets stack key met) (met : ResolverKey) :
    g.Meets stack key met ↔ g.Meets [] key met :=
  (append (show g.Reached region ([] ++ stack) key from h) hmeets).2 met

end Reached

end Ground

end Loadout
