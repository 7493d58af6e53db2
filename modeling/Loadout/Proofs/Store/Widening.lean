import Mathlib.Data.List.Basic
import Loadout.Store

/-!
# Wider queries

A query that has more flags and keywords than another, and is about the same situation otherwise,
finds every modifier that the other finds, in the same order and with the same effect. It may find
more. A modifier that is gained has a flag or a keyword that the narrow query does not have, and
every modifier found that has one is gained: each of its flags counts, named or not, and one that
is missing is enough.

## Main definitions

* `Context.Within`: a situation with no more flags and keywords than another
* `Modifier.NeedsMore`: a modifier has a flag or a keyword that a situation does not have

## Main results

* `Context.Within.effect?_eq`: what a modifier contributes in the narrow situation
* `Store.matching_widen`: what the narrow query finds, in terms of what the wide one finds
-/

namespace Loadout

variable {ν : Type}

/-- A situation has no flag and no keyword that another does not have, and it is the same
otherwise. -/
structure Context.Within (narrow wide : Context ν) : Prop where
  flags : ∀ i < 64, narrow.flags.has i = true → wide.flags.has i = true
  keywords : ∀ i < 64, narrow.keywords.has i = true → wide.keywords.has i = true
  conditions : narrow.conditions = wide.conditions
  stats : narrow.stats = wide.stats
  slot : narrow.slot = wide.slot

/-- A set of flags has a flag that a query does not have exactly when it does not apply to it. -/
theorem FlagSet.appliesTo_eq_false_iff {names : Vocabulary} {a query : FlagSet names} :
    a.appliesTo query = false ↔ ∃ i < 64, a.has i = true ∧ query.has i = false := by
  rw [← Bool.not_eq_true, appliesTo_iff]
  simp only [not_forall, Bool.not_eq_true, exists_prop]

namespace Modifier

/-- A modifier has a flag or a keyword that a situation does not have. -/
def NeedsMore (m : Modifier ν) (ctx : Context ν) : Prop :=
  (∃ i < 64, m.flags.has i = true ∧ ctx.flags.has i = false) ∨
    ∃ i < 64, m.keywords.has i = true ∧ ctx.keywords.has i = false

instance (m : Modifier ν) (ctx : Context ν) : Decidable (m.NeedsMore ctx) :=
  inferInstanceAs (Decidable (_ ∨ _))

theorem needsMore_iff {m : Modifier ν} {ctx : Context ν} :
    m.NeedsMore ctx ↔
      m.flags.appliesTo ctx.flags = false ∨ m.keywords.appliesTo ctx.keywords = false := by
  rw [NeedsMore, FlagSet.appliesTo_eq_false_iff, FlagSet.appliesTo_eq_false_iff]

end Modifier

variable [Scalar ν] {narrow wide : Context ν}

namespace Context.Within

omit [Scalar ν] in
/-- A modifier that does not need more than the narrow situation has does not need more than the
wide one has. -/
theorem not_needsMore (h : narrow.Within wide) {m : Modifier ν} (hm : ¬ m.NeedsMore narrow) :
    ¬ m.NeedsMore wide := by
  rintro (⟨i, hi, hmod, hwide⟩ | ⟨i, hi, hmod, hwide⟩)
  · refine hm (.inl ⟨i, hi, hmod, Bool.eq_false_iff.mpr fun hnarrow => ?_⟩)
    exact Bool.false_ne_true (hwide.symm.trans (h.flags i hi hnarrow))
  · refine hm (.inr ⟨i, hi, hmod, Bool.eq_false_iff.mpr fun hnarrow => ?_⟩)
    exact Bool.false_ne_true (hwide.symm.trans (h.keywords i hi hnarrow))

theorem factor?_eq (h : narrow.Within wide) (condition : Condition ν) :
    condition.factor? narrow = condition.factor? wide := by
  have hholds : narrow.holds = wide.holds := by funext name; rw [holds, holds, h.conditions]
  have hstat : narrow.stat? = wide.stat? := by funext stat; rw [stat?, stat?, h.stats]
  cases condition with
  | state name negated => rw [Condition.factor?, Condition.factor?, hholds]
  | threshold stat bound atLeast => rw [Condition.factor?, Condition.factor?, hstat]
  | multiplier stat per limit => rw [Condition.factor?, Condition.factor?, hstat]

/-- In the narrow situation a modifier contributes nothing when it needs more, and otherwise what
it contributes in the wide one. -/
theorem effect?_eq (h : narrow.Within wide) (m : Modifier ν) :
    m.effect? narrow = if m.NeedsMore narrow then none else m.effect? wide := by
  split
  · next hneeds =>
    rcases Modifier.needsMore_iff.mp hneeds with hflags | hkeywords
    · simp only [Modifier.effect?, hflags, Bool.false_and, Bool.false_eq_true, if_false]
    · simp only [Modifier.effect?, hkeywords, Bool.and_false, Bool.false_and, Bool.false_eq_true,
        if_false]
  · next hneeds =>
    have happlies {ctx : Context ν} (hctx : ¬ m.NeedsMore ctx) :
        (m.flags.appliesTo ctx.flags && m.keywords.appliesTo ctx.keywords) = true := by
      rw [Modifier.needsMore_iff, not_or, Bool.not_eq_false, Bool.not_eq_false] at hctx
      rw [hctx.1, hctx.2, Bool.and_self]
    rw [Modifier.effect?, Modifier.effect?, happlies hneeds, happlies (h.not_needsMore hneeds),
      h.slot]
    simp only [h.factor?_eq]

end Context.Within

/-- A wider query loses no modifier and changes no effect: the narrow one finds, in order, those
modifiers of the wide one that do not need more flags or keywords than it has. -/
theorem Store.matching_widen (h : narrow.Within wide) (s : Store ν) (kind : Kind) (stat : String) :
    (s.matching kind stat narrow).Sublist (s.matching kind stat wide) ∧
      s.matching kind stat narrow =
        (s.matching kind stat wide).filter fun entry => ¬ entry.1.NeedsMore narrow := by
  have hfilter : s.matching kind stat narrow =
      (s.matching kind stat wide).filter fun entry => ¬ entry.1.NeedsMore narrow := by
    rw [matching, matching, List.filter_filterMap]
    refine List.filterMap_congr fun m _ => ?_
    rw [h.effect?_eq]
    cases m.effect? wide with
    | none => simp only [ite_self, Option.map_none, Option.filter_none]
    | some x =>
      by_cases hneeds : m.NeedsMore narrow
      · simp [Option.filter_some, hneeds]
      · simp [Option.filter_some, hneeds]
  refine ⟨?_, hfilter⟩
  rw [hfilter]
  exact List.filter_sublist

/-- A query for attacks is widened by a flag without a name and by a keyword. -/
theorem Store.matching_widen_unnamed :
    let s : Store Rat := .ofList [
      .number "Damage" .increased (1 / 10) .custom,
      { stat := "Damage", kind := .increased, value := .number (1 / 5),
        flags := .single 0 ∪ .single 60 },
      { stat := "Damage", kind := .increased, value := .number (2 / 5), flags := .single 0,
        keywords := .single 5 }]
    let narrow : Context Rat := { flags := .single 0 }
    let wide : Context Rat := { flags := .single 0 ∪ .single 60, keywords := .single 5 }
    narrow.Within wide ∧
      (s.matching .increased "Damage" narrow).Sublist (s.matching .increased "Damage" wide) := by
  intro s narrow wide
  have hwithin : narrow.Within wide := ⟨by decide, by decide, rfl, rfl, rfl⟩
  exact ⟨hwithin, (matching_widen hwithin s .increased "Damage").1⟩

end Loadout
