import Loadout.Proofs.Resolution.Calls
import Loadout.Proofs.Resolution.Contributions

/-!
# Breakdowns explain values

The totals of an answer are those of its contributions, unless an override stands alone. What an
activation computes has such a breakdown, because its loops count each contribution as they list it,
and so has the zero that stands in for a key of the stack. Answers are kept as they were computed,
so an invariant of the kept answers carries this through every nested activation and every call: all
kept answers are explained.

The zero adds up because `0 * (1 + 0) * 1` is zero, which the numbers have to grant.

## Main definitions

* `Resolved.AddsUp`, `Resolved.IsOverride`: the two kinds of breakdown
* `Resolved.Explained`: an answer whose breakdown explains its value
* `Resolver.KeepsExplained`: the invariant of the kept answers
* `Resolver.Reply.resolved`: the answers that come back from a call

## Main results

* `Resolver.KeepsExplained.visit`: what one activation does to explained answers
* `Activation.Reaches.keepsExplained`: every activation begins with explained answers
* `Resolver.explained_of_calls`: every answer is explained, whatever was called for before
-/

namespace Loadout

variable {ν : Type} [Scalar ν]

namespace Resolved

/-- The totals of a stat are those of its contributions, and its value is made of them. -/
structure AddsUp (r : Resolved ν) : Prop where
  base : r.base = Scalar.sum ((r.ofKind .base).map (·.value))
  increased : r.increased = Scalar.sum ((r.ofKind .increased).map (·.value))
  more : r.more = Scalar.product ((r.ofKind .more).map fun c => Scalar.one + c.value)
  value : r.value = r.base * (Scalar.one + r.increased) * r.more
  kinds : ∀ c ∈ r.contributions, c.kind = .base ∨ c.kind = .increased ∨ c.kind = .more

/-- One override is the whole breakdown of a stat. It is the value, and nothing adds up. -/
structure IsOverride (r : Resolved ν) (x : ν) : Prop where
  contributions : ∃ label, r.contributions = [⟨label, .override, x⟩]
  value : r.value = x
  base : r.base = Scalar.zero
  increased : r.increased = Scalar.zero
  more : r.more = Scalar.one

/-- The breakdown of a stat explains its value. -/
def Explained (r : Resolved ν) : Prop :=
  match r.override with
  | some x => r.IsOverride x
  | none => r.AddsUp

variable {store : Store ν} {stat : String} {ctx : Context ν} {c : Contribution ν}

theorem explained_of_overridden? {answer : Resolved ν}
    (h : overridden? store stat ctx = some answer) : answer.Explained := by
  obtain ⟨⟨m, x⟩, -, rfl⟩ := Option.map_eq_some_iff.mp h
  exact ⟨⟨m.origin.text, rfl⟩, rfl, rfl, rfl, rfl⟩

theorem addsUp_ofContributions {contributions : List (Contribution ν)}
    (h : ∀ c ∈ contributions, c.kind = .base ∨ c.kind = .increased ∨ c.kind = .more) :
    (ofContributions stat contributions).AddsUp where
  base := rfl
  increased := rfl
  more := congrArg Scalar.product List.map_map
  value := rfl
  kinds := h

/-- What modifiers and attributes make of a stat adds up when the attributes grant bases and
increases. -/
theorem explained_combined {attributes : List (AttributeRule ν × ν)}
    (h : ∀ entry ∈ attributes, entry.1.kind = .base ∨ entry.1.kind = .increased) :
    (combined store stat ctx attributes).Explained := by
  rw [combined_eq_ofContributions h]
  refine addsUp_ofContributions fun c hc => ?_
  simp only [List.mem_append] at hc
  obtain ((hbase | hincreased) | hattribute) | hmore := hc
  · exact .inl (kind_of_mem_fromStore hbase)
  · exact .inr (.inl (kind_of_mem_fromStore hincreased))
  · obtain ⟨entry, hentry, hkind⟩ := kind_of_mem_fromAttributes hattribute
    rw [hkind]
    exact (h entry hentry).imp_right .inl
  · exact .inr (.inr (kind_of_mem_fromStore hmore))

end Resolved

namespace Resolver

/-- The answers that come back from a call, whether found now or kept from before. -/
def Reply.resolved : Reply ν → List (Resolved ν)
  | .answer (.resolved found) => [found]
  | .answer (.several found) => found
  | .cached kept => kept.toList
  | .answer (.value _) | .ground _ | .done => []

/-- Every kept answer is explained. -/
def KeepsExplained (r : Resolver ν) : Prop :=
  ∀ (key : ResolverKey) (answer : Resolved ν), r.cache[key]? = some answer → answer.Explained

theorem keepsExplained_ofStore (store : Store ν) (defaults : Context ν) :
    (ofStore store defaults).KeepsExplained :=
  fun _ answer hkept => absurd (Std.HashMap.getElem?_empty.symm.trans hkept)
    (Option.some_ne_none answer).symm

variable {visit : Resolver ν → ResolverKey → Option (Resolved ν × Resolver ν)}
  {r r' : Resolver ν} {key : ResolverKey} {stat : String} {answer : Resolved ν}

theorem KeepsExplained.finish (h : r.KeepsExplained) (hanswer : answer.Explained) :
    (r.finish key answer).KeepsExplained := by
  intro other kept hkept
  rcases cache_finish r key answer with heq | heq
  · rw [heq] at hkept
    exact h other kept hkept
  · rw [heq, Std.HashMap.getElem?_insert] at hkept
    split at hkept
    · obtain rfl := Option.some.inj hkept
      exact hanswer
    · exact h other kept hkept

theorem KeepsExplained.invalidate (h : r.KeepsExplained) (stat : String) :
    (r.invalidate stat).KeepsExplained := by
  intro key answer hkept
  have hkept' : (r.cache.filter fun key _ => key.stat != stat)[key]? = some answer := hkept
  rw [Std.HashMap.getElem?_filter'] at hkept'
  exact h key answer (Option.eq_some_of_filter_eq_some hkept')

namespace KeepsExplained

/-! ### One computation -/

section

variable (hvisit : ∀ (r : Resolver ν) (key : ResolverKey) (answer : Resolved ν) (r' : Resolver ν),
  r.KeepsExplained → visit r key = some (answer, r') → answer.Explained ∧ r'.KeepsExplained)
include hvisit

private theorem along : Along visit fun r r' => r.KeepsExplained → r'.KeepsExplained where
  refl _ := id
  trans h h' := h' ∘ h
  answered h hkeeps := (hvisit _ _ _ _ hkeeps h).2

/-- What is computed is explained, and so is all that is kept on the way. -/
theorem compute (h : r.KeepsExplained) (hcompute : compute visit r key = some (answer, r')) :
    answer.Explained ∧ r'.KeepsExplained := by
  refine ⟨?_, (along hvisit).compute hcompute h⟩
  obtain ⟨known, r₁, -, ⟨hover, -⟩ | ⟨-, granted, -, rfl⟩⟩ := compute_eq_some_iff.mp hcompute
  · exact Resolved.explained_of_overridden? hover
  · refine Resolved.explained_combined fun entry hentry => ?_
    exact Ground.kind_of_mem_rules (List.of_mem_zip hentry).1

theorem requests (h : r.KeepsExplained) (hrequests : Requests visit r key stat r') :
    r'.KeepsExplained :=
  (along hvisit).requests hrequests h

end

end KeepsExplained

end Resolver

/-! ### Activations and calls -/

section

variable (hzero : (Scalar.zero : ν) * (Scalar.one + Scalar.zero) * Scalar.one = Scalar.zero)
include hzero

/-- The zero that stands in for a stat adds up. -/
theorem Resolved.explained_nothing (stat : String) : (nothing stat : Resolved ν).Explained where
  base := rfl
  increased := rfl
  more := rfl
  value := hzero.symm
  kinds _ hc := absurd hc List.not_mem_nil

namespace Resolver

variable {r r' : Resolver ν} {key : ResolverKey} {answer : Resolved ν}

namespace KeepsExplained

/-- An activation gives an explained answer and keeps explained ones. -/
theorem visit {bound : Nat} (h : r.KeepsExplained)
    (hvisit : visit? bound r key = some (answer, r')) :
    answer.Explained ∧ r'.KeepsExplained := by
  induction bound using Nat.strongRecOn generalizing r key answer r' with
  | ind bound ih =>
    obtain ⟨hkept, rfl⟩ | ⟨-, -, rfl, rfl⟩ | ⟨-, -, n, r₁, rfl, hcompute, rfl⟩ :=
      visit?_cases hvisit
    · exact ⟨h key answer hkept, h⟩
    · exact ⟨Resolved.explained_nothing hzero key.stat, h⟩
    · have hpushed : KeepsExplained { r with stack := key :: r.stack } := h
      obtain ⟨hanswer, hkeeps⟩ := hpushed.compute
        (fun r key answer r' h hvisit => ih n (Nat.lt_succ_self n) h hvisit) hcompute
      exact ⟨hanswer, hkeeps.finish hanswer⟩

theorem resolve (h : r.KeepsExplained) (stat : String) (flags : Option DamageFlags)
    (keywords : Option KeywordFlags) :
    (r.resolve stat flags keywords).1.Explained ∧
      (r.resolve stat flags keywords).2.KeepsExplained := by
  unfold Resolver.resolve
  dsimp only
  cases hvisit : visit? r.budget r
      ⟨stat, flags.getD r.defaults.flags, keywords.getD r.defaults.keywords⟩ with
  | none => exact ⟨Resolved.explained_nothing hzero stat, h⟩
  | some result => exact h.visit hzero hvisit

theorem resolveAll (h : r.KeepsExplained) (stats : List String) :
    (∀ answer ∈ (r.resolveAll stats).1, answer.Explained) ∧
      (r.resolveAll stats).2.KeepsExplained := by
  induction stats generalizing r with
  | nil => exact ⟨fun _ hanswer => absurd hanswer List.not_mem_nil, h⟩
  | cons stat rest ih =>
    obtain ⟨hanswer, hkeeps⟩ := h.resolve hzero stat none none
    obtain ⟨hanswers, hkeeps'⟩ := ih hkeeps
    exact ⟨List.forall_mem_cons.mpr ⟨hanswer, hanswers⟩, hkeeps'⟩

theorem call (h : r.KeepsExplained) (call : Call ν) :
    (∀ answer ∈ (r.call call).1.resolved, answer.Explained) ∧
      (r.call call).2.KeepsExplained := by
  have hnone : ∀ answer ∈ ([] : List (Resolved ν)), answer.Explained :=
    fun _ hanswer => absurd hanswer List.not_mem_nil
  cases call with
  | ask query =>
    cases query with
    | stat name flags keywords =>
      obtain ⟨hanswer, hkeeps⟩ := h.resolve hzero name flags keywords
      exact ⟨List.forall_mem_singleton.mpr hanswer, hkeeps⟩
    | value name => exact ⟨hnone, (h.resolve hzero name none none).2⟩
    | several names => exact h.resolveAll hzero names
  | cached key => exact ⟨fun answer hanswer => h key answer (Option.mem_toList.mp hanswer), h⟩
  | ground => exact ⟨hnone, h⟩
  | withDefaults defaults => exact ⟨hnone, h⟩
  | replaceStore store => exact ⟨hnone, h⟩
  | setCondition name active => exact ⟨hnone, h⟩
  | setStat stat value => exact ⟨hnone, h⟩
  | invalidate stat => exact ⟨hnone, h.invalidate stat⟩
  | invalidateAll => exact ⟨hnone, keepsExplained_ofStore r.store r.defaults⟩

theorem callAll (h : r.KeepsExplained) (calls : List (Call ν)) :
    (r.callAll calls).2.KeepsExplained := by
  induction calls generalizing r with
  | nil => exact h
  | cons first rest ih => exact ih (h.call hzero first).2

theorem begins (h : r.KeepsExplained) {call : Call ν} {top : Activation ν}
    (htop : top ∈ r.activations call) : top.resolver.KeepsExplained := by
  have hinTurn (stats : List String) (r : Resolver ν) (h : r.KeepsExplained)
      (htop : top ∈ r.activationsInTurn stats) : top.resolver.KeepsExplained := by
    induction stats generalizing r with
    | nil => exact absurd htop List.not_mem_nil
    | cons stat rest ih =>
      rcases List.mem_cons.mp htop with rfl | hrest
      · exact h
      · exact ih _ (h.resolve hzero stat none none).2 hrest
  cases call with
  | ask query =>
    cases query with
    | stat name flags keywords =>
      rw [List.mem_singleton.mp htop]
      exact h
    | value name =>
      rw [List.mem_singleton.mp htop]
      exact h
    | several names => exact hinTurn names r h htop
  | _ => exact absurd htop List.not_mem_nil

end KeepsExplained

end Resolver

/-- In the course of an activation that begins with explained answers every other does. -/
theorem Activation.Reaches.keepsExplained {top a : Activation ν} {frames : List (Activation ν)}
    (h : top.Reaches frames a) (htop : top.resolver.KeepsExplained) :
    a.resolver.KeepsExplained := by
  induction h with
  | top => exact htop
  | @nested _ a _ _ hmakes ih =>
    obtain ⟨stat, hrequests, -⟩ := hmakes.requests
    have hentered : a.entered.KeepsExplained := ih
    exact hentered.requests (fun r key answer r' h hvisit => h.visit hzero hvisit) hrequests

end

/-- On any store, in any default situation and after any calls, every answer that comes back is
explained, and so is every answer that an activation in its course comes to: one that is computed,
one that was kept, and the zero for a key that is met again. -/
theorem Resolver.explained_of_calls (store : Store Float) (defaults : Context Float)
    (earlier : List (Call Float)) (call : Call Float) :
    let r := ((ofStore store defaults).callAll earlier).2
    (∀ answer ∈ (r.call call).1.resolved, answer.Explained) ∧
      ∀ top ∈ r.activations call, ∀ frames a, top.Reaches frames a →
        ∃ answer r', a.run = some (answer, r') ∧ answer.Explained := by
  intro r
  have hzero : (Scalar.zero : Float) * (Scalar.one + Scalar.zero) * Scalar.one = Scalar.zero := by
    decide
  have hrest : r.AtRest := (atRest_ofStore store defaults).callAll earlier
  have hkeeps : r.KeepsExplained := (keepsExplained_ofStore store defaults).callAll hzero earlier
  refine ⟨(hkeeps.call hzero call).1, fun top htop frames a hreaches => ?_⟩
  obtain ⟨answer, r', hrun, -⟩ := (hreaches.proper (hrest.begins htop).1).runs
  exact ⟨answer, r', hrun,
    ((hreaches.keepsExplained hzero (hkeeps.begins hzero htop)).visit hzero hrun).1⟩

end Loadout
