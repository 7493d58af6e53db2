import Mathlib.Logic.Relation
import Loadout.Pattern.Basic

/-!
# Where a pattern leads

A pattern relates the places that it starts from to the places that it leads to, by any of its
ways to match. The search tries these ways in preference order and takes the first that its
continuation accepts. So it finds a place exactly when the pattern leads to one that is accepted,
and what it finds is accepted at such a place. Which of several places it prefers is not said
here: where there is only one, nothing depends on it.

## Main definitions

* `Pattern.Leads`: the places that a pattern leads to
* `Pattern.Explores`: a search follows a relation
* `Pattern.FoundAt`: a match and the place where it starts

## Main results

* `Pattern.explores_run`: the search follows the relation of its pattern
* `Pattern.foundAt_of_findAfter?`, `Pattern.findAfter?_eq_none_iff`: the leftmost match is found
-/

namespace Loadout

namespace Pattern

/-! ### Rounds -/

section Rounds

variable (R : Place → Place → Prop)

/-- A number of rounds. -/
def Rounds : Nat → Place → Place → Prop
  | 0, p, q => q = p
  | n + 1, p, q => ∃ m, R p m ∧ Rounds n m q

/-- A round that consumes something. -/
def Shrinks (p q : Place) : Prop :=
  R p q ∧ q.rest.length < p.rest.length

/-- A round and, where it consumes something, further rounds that do. -/
def OneOrMore (p q : Place) : Prop :=
  ∃ m, R p m ∧
    (m.rest.length < p.rest.length ∧ Relation.ReflTransGen (Shrinks R) m q ∨
      ¬ m.rest.length < p.rest.length ∧ q = m)

end Rounds

/-- The places that a pattern leads to. -/
def Leads : Pattern → Place → Place → Prop
  | empty => fun p q => q = p
  | char s => fun p q => ∃ c rest, p.rest = c :: rest ∧ s.contains c = true ∧
      q = ⟨c :: p.before, rest, p.captures⟩
  | anchor a => fun p q => a.holds p = true ∧ q = p
  | group slot body => fun p q => ∃ m, body.Leads p m ∧ q = m.capture slot p
  | seq first second => fun p q => ∃ m, first.Leads p m ∧ second.Leads m q
  | alt left right => fun p q => left.Leads p q ∨ right.Leads p q
  | repeated body least (some most) _ => fun p q =>
      ∃ n, least ≤ n ∧ n ≤ max least most ∧ Rounds body.Leads n p q
  | repeated body 0 none _ => fun p q => OneOrMore body.Leads p q ∨ q = p
  | repeated body (n + 1) none _ => fun p q =>
      ∃ m, Rounds body.Leads n p m ∧ OneOrMore body.Leads m q

/-! ### Searches -/

/-- A search finds what its continuation accepts at a place that a relation leads to, and it finds
something if there is such a place. -/
structure Explores (step : Step) (R : Place → Place → Prop) : Prop where
  sound : ∀ {k p r}, step k p = some r → ∃ q, R p q ∧ k q = some r
  complete : ∀ {k p q}, R p q → (k q).isSome → (step k p).isSome

theorem isSome_prefer (firstWay : Bool) (a b : Unit → Option Place) :
    (prefer firstWay a b).isSome = ((a ()).isSome || (b ()).isSome) := by
  cases firstWay <;> simp [prefer, Bool.or_comm]

theorem eq_some_of_prefer {firstWay : Bool} {a b : Unit → Option Place} {r : Place}
    (h : prefer firstWay a b = some r) : a () = some r ∨ b () = some r := by
  cases firstWay with
  | true => exact (Option.or_eq_some_iff.1 h).imp_right And.right
  | false => exact (Option.or_eq_some_iff.1 h).symm.imp_left And.right

namespace Explores

variable {step : Step} {R : Place → Place → Prop}

theorem exactly (h : Explores step R) (n : Nat) : Explores (exactly step n) (Rounds R n) := by
  induction n with
  | zero => exact ⟨fun hr => ⟨_, rfl, hr⟩, fun hq hk => by rwa [hq] at hk⟩
  | succ n ih =>
    refine ⟨fun hr => ?_, fun ⟨m, hm, hq⟩ hk => h.complete hm (ih.complete hq hk)⟩
    obtain ⟨m, hm, hr⟩ := h.sound hr
    obtain ⟨q, hq, hr⟩ := ih.sound hr
    exact ⟨q, ⟨m, hm, hq⟩, hr⟩

theorem upTo (h : Explores step R) (greedy : Bool) (n : Nat) :
    Explores (fun k => upTo step greedy k n) fun p q => ∃ m ≤ n, Rounds R m p q := by
  induction n with
  | zero => exact ⟨fun hr => ⟨_, ⟨0, Nat.le_refl 0, rfl⟩, hr⟩, by
      rintro k p q ⟨m, hm, hq⟩ hk
      rw [Nat.le_zero.1 hm] at hq
      rwa [hq] at hk⟩
  | succ n ih =>
    refine ⟨fun hr => ?_, ?_⟩
    · rcases eq_some_of_prefer hr with hr | hr
      · obtain ⟨m, hm, hr⟩ := h.sound hr
        obtain ⟨q, ⟨rounds, hrounds, hq⟩, hr⟩ := ih.sound hr
        exact ⟨q, ⟨rounds + 1, Nat.succ_le_succ hrounds, m, hm, hq⟩, hr⟩
      · exact ⟨_, ⟨0, Nat.zero_le _, rfl⟩, hr⟩
    · rintro k p q ⟨rounds, hrounds, hq⟩ hk
      simp only [Pattern.upTo, isSome_prefer, Bool.or_eq_true]
      cases rounds with
      | zero => exact .inr (by rwa [show q = p from hq] at hk)
      | succ rounds =>
        obtain ⟨m, hm, hq⟩ := hq
        exact .inl (h.complete hm (ih.complete ⟨rounds, Nat.le_of_succ_le_succ hrounds, hq⟩ hk))

/-- Further rounds shrink what remains, whatever their bound is. -/
theorem furtherRounds_sound (h : Explores step R) {greedy : Bool} {k : Continuation} {n : Nat}
    {p r : Place} (hr : furtherRounds step greedy k n p = some r) :
    ∃ q, Relation.ReflTransGen (Shrinks R) p q ∧ k q = some r := by
  induction n generalizing p with
  | zero => exact ⟨p, .refl, hr⟩
  | succ n ih =>
    rcases eq_some_of_prefer hr with hr | hr
    · obtain ⟨m, hm, hr⟩ := h.sound hr
      split at hr
      case isTrue hshrinks =>
        obtain ⟨q, hq, hr⟩ := ih hr
        exact ⟨q, .head ⟨hm, hshrinks⟩ hq, hr⟩
      case isFalse => cases hr
    · exact ⟨p, .refl, hr⟩

/-- A bound of what remains leaves room for all further rounds. -/
theorem furtherRounds_complete (h : Explores step R) {greedy : Bool} {k : Continuation} {n : Nat}
    {p q : Place} (hn : p.rest.length ≤ n) (hq : Relation.ReflTransGen (Shrinks R) p q)
    (hk : (k q).isSome) : (furtherRounds step greedy k n p).isSome := by
  induction n generalizing p with
  | zero =>
    cases hq.cases_head with
    | inl heq => rwa [← heq] at hk
    | inr hround =>
      obtain ⟨m, ⟨-, hshrinks⟩, -⟩ := hround
      omega
  | succ n ih =>
    simp only [furtherRounds, isSome_prefer, Bool.or_eq_true]
    cases hq.cases_head with
    | inl heq => exact .inr (by rwa [← heq] at hk)
    | inr hround =>
      obtain ⟨m, ⟨hm, hshrinks⟩, hq⟩ := hround
      refine .inl (h.complete hm ?_)
      rw [if_pos hshrinks]
      exact ih (by omega) hq

theorem oneOrMore (h : Explores step R) (greedy : Bool) :
    Explores (oneOrMore step greedy) (OneOrMore R) where
  sound hr := by
    obtain ⟨m, hm, hr⟩ := h.sound hr
    split at hr
    case isTrue hshrinks =>
      obtain ⟨q, hq, hr⟩ := h.furtherRounds_sound hr
      exact ⟨q, ⟨m, hm, .inl ⟨hshrinks, hq⟩⟩, hr⟩
    case isFalse hsame => exact ⟨m, ⟨m, hm, .inr ⟨hsame, rfl⟩⟩, hr⟩
  complete := by
    rintro k p q ⟨m, hm, ⟨hshrinks, hq⟩ | ⟨hsame, rfl⟩⟩ hk
    · refine h.complete hm ?_
      rw [if_pos hshrinks]
      exact h.furtherRounds_complete (Nat.le_refl _) hq hk
    · refine h.complete hm ?_
      rwa [if_neg hsame]

theorem comp {other : Step} {S : Place → Place → Prop} (h : Explores step R)
    (hother : Explores other S) :
    Explores (fun k => step (other k)) fun p q => ∃ m, R p m ∧ S m q where
  sound hr := by
    obtain ⟨m, hm, hr⟩ := h.sound hr
    obtain ⟨q, hq, hr⟩ := hother.sound hr
    exact ⟨q, ⟨m, hm, hq⟩, hr⟩
  complete := fun ⟨_, hm, hq⟩ hk => h.complete hm (hother.complete hq hk)

theorem prefer {other : Step} {S : Place → Place → Prop} (h : Explores step R)
    (hother : Explores other S) (firstWay : Bool) :
    Explores (fun k p => prefer firstWay (fun _ => step k p) fun _ => other k p)
      fun p q => R p q ∨ S p q where
  sound hr := by
    rcases eq_some_of_prefer hr with hr | hr
    · obtain ⟨q, hq, hr⟩ := h.sound hr
      exact ⟨q, .inl hq, hr⟩
    · obtain ⟨q, hq, hr⟩ := hother.sound hr
      exact ⟨q, .inr hq, hr⟩
  complete := by
    rintro k p q (hq | hq) hk <;> rw [isSome_prefer, Bool.or_eq_true]
    · exact .inl (h.complete hq hk)
    · exact .inr (hother.complete hq hk)

theorem congr {S : Place → Place → Prop} (h : Explores step R) (heq : ∀ p q, R p q ↔ S p q) :
    Explores step S where
  sound hr := by
    obtain ⟨q, hq, hr⟩ := h.sound hr
    exact ⟨q, (heq _ q).1 hq, hr⟩
  complete hq := h.complete ((heq _ _).2 hq)

end Explores

theorem rounds_add {R : Place → Place → Prop} {n m : Nat} {p q : Place} :
    Rounds R (n + m) p q ↔ ∃ between, Rounds R n p between ∧ Rounds R m between q := by
  induction n generalizing p with
  | zero => simp [Rounds]
  | succ n ih =>
    rw [Nat.add_right_comm]
    simp only [Rounds, ih]
    constructor
    · rintro ⟨a, ha, b, hb, hq⟩
      exact ⟨b, ⟨a, ha, hb⟩, hq⟩
    · rintro ⟨b, ⟨a, ha, hb⟩, hq⟩
      exact ⟨a, ha, b, hb, hq⟩

/-- The search follows the relation of its pattern. -/
theorem explores_run (p : Pattern) : Explores p.run p.Leads := by
  have hstop : Explores (fun k => k) fun p q => q = p :=
    ⟨fun hr => ⟨_, rfl, hr⟩, fun hq hk => by rwa [hq] at hk⟩
  induction p with
  | empty => exact hstop
  | char s =>
    constructor
    · intro k p r hr
      simp only [run] at hr
      split at hr
      case h_1 c rest hrest =>
        split at hr
        case isTrue hc => exact ⟨_, ⟨c, rest, hrest, hc, rfl⟩, hr⟩
        case isFalse => cases hr
      case h_2 => cases hr
    · rintro k p q ⟨c, rest, hrest, hc, rfl⟩ hk
      simp only [run, hrest, hc, if_true]
      exact hk
  | anchor a =>
    constructor
    · intro k p r hr
      simp only [run] at hr
      split at hr
      case isTrue ha => exact ⟨p, ⟨ha, rfl⟩, hr⟩
      case isFalse => cases hr
    · rintro k p q ⟨ha, rfl⟩ hk
      simp only [run, ha, if_true]
      exact hk
  | group slot body ih =>
    constructor
    · intro k p r hr
      obtain ⟨m, hm, hr⟩ := ih.sound hr
      exact ⟨_, ⟨m, hm, rfl⟩, hr⟩
    · rintro k p q ⟨m, hm, rfl⟩ hk
      exact ih.complete hm hk
  | seq first second ihFirst ihSecond => exact ihFirst.comp ihSecond
  | alt left right ihLeft ihRight => exact ihLeft.prefer ihRight true
  | repeated body least most greedy ih =>
    cases most with
    | some most =>
      refine ((ih.exactly least).comp (ih.upTo greedy (most - least))).congr fun p q => ?_
      constructor
      · rintro ⟨m, hm, rounds, hrounds, hq⟩
        exact ⟨least + rounds, by omega, by omega, rounds_add.2 ⟨m, hm, hq⟩⟩
      · rintro ⟨n, hleast, hmost, hq⟩
        obtain ⟨m, hm, hq⟩ := rounds_add.1 (show Rounds body.Leads (least + (n - least)) p q by
          rwa [Nat.add_sub_cancel' hleast])
        exact ⟨m, hm, n - least, by omega, hq⟩
    | none =>
      cases least with
      | zero => exact (ih.oneOrMore greedy).prefer hstop greedy
      | succ n => exact (ih.exactly n).comp (ih.oneOrMore greedy)

/-! ### The leftmost match -/

/-- A match of a pattern that starts at a place. -/
def FoundAt (p : Pattern) (place : Place) (m : Match) : Prop :=
  ∃ q, p.Leads place q ∧ m = ⟨place.before, q.since place, q.rest, q.captures⟩

theorem foundAt_of_matchAt? {p : Pattern} {place : Place} {m : Match}
    (h : p.matchAt? place = some m) : p.FoundAt place m := by
  obtain ⟨q, hrun, rfl⟩ := Option.map_eq_some_iff.1 h
  obtain ⟨q', hq, heq⟩ := (explores_run p).sound hrun
  exact ⟨q, Option.some.inj heq ▸ hq, rfl⟩

theorem matchAt?_eq_none_iff {p : Pattern} {place : Place} :
    p.matchAt? place = none ↔ ∀ q, ¬ p.Leads place q := by
  rw [matchAt?, Option.map_eq_none_iff]
  constructor
  · intro hrun q hq
    have := (explores_run p).complete hq (k := some) rfl
    rw [hrun] at this
    cases this
  · intro hnone
    rw [Option.eq_none_iff_forall_ne_some]
    intro r hr
    obtain ⟨q, hq, -⟩ := (explores_run p).sound hr
    exact hnone q hq

/-- What is found starts somewhere in the text and leads on from there, and the pattern leads
nowhere from the places before. -/
theorem foundAt_of_findAfter? {p : Pattern} {before rest : List Char} {m : Match}
    (h : p.findAfter? before rest = some m) :
    ∃ skipped more, rest = skipped ++ more ∧ p.FoundAt ⟨skipped.reverse ++ before, more, []⟩ m ∧
      ∀ early late q, rest = early ++ late → early.length < skipped.length →
        ¬ p.Leads ⟨early.reverse ++ before, late, []⟩ q := by
  induction rest generalizing before with
  | nil =>
    unfold findAfter? at h
    split at h
    case h_1 found hfound =>
      cases h
      exact ⟨[], [], rfl, foundAt_of_matchAt? hfound, fun _ _ _ _ hshort => by simp at hshort⟩
    case h_2 => cases h
  | cons c rest ih =>
    unfold findAfter? at h
    split at h
    case h_1 found hfound =>
      cases h
      exact ⟨[], _, rfl, foundAt_of_matchAt? hfound, fun _ _ _ _ hshort => by simp at hshort⟩
    case h_2 hnone =>
      obtain ⟨skipped, more, rfl, hfound, hfirst⟩ := ih h
      refine ⟨c :: skipped, more, rfl, by simpa using hfound, ?_⟩
      intro early late q hrest hshort
      cases early with
      | nil =>
        rw [← List.nil_append late, ← hrest]
        exact matchAt?_eq_none_iff.1 hnone q
      | cons d early =>
        obtain ⟨rfl, htail⟩ := List.cons.inj hrest
        simpa using hfirst early late q htail (Nat.lt_of_succ_lt_succ hshort)

/-- Nothing is found exactly when the pattern leads nowhere from any place of the text. -/
theorem findAfter?_eq_none_iff {p : Pattern} {before rest : List Char} :
    p.findAfter? before rest = none ↔
      ∀ skipped more q, rest = skipped ++ more →
        ¬ p.Leads ⟨skipped.reverse ++ before, more, []⟩ q := by
  induction rest generalizing before with
  | nil =>
    unfold findAfter?
    constructor
    · intro h skipped more q hrest
      split at h
      case h_1 => cases h
      case h_2 hnone =>
        obtain ⟨rfl, rfl⟩ := List.nil_eq_append_iff.1 hrest
        exact matchAt?_eq_none_iff.1 hnone q
    · intro h
      have hhere : p.matchAt? ⟨before, [], []⟩ = none :=
        matchAt?_eq_none_iff.2 fun q => h [] [] q rfl
      rw [hhere]
  | cons c rest ih =>
    unfold findAfter?
    constructor
    · intro h skipped more q hrest
      split at h
      case h_1 => cases h
      case h_2 hnone =>
        cases skipped with
        | nil =>
          rw [← List.nil_append more, ← hrest]
          exact matchAt?_eq_none_iff.1 hnone q
        | cons d skipped =>
          obtain ⟨rfl, htail⟩ := List.cons.inj hrest
          simpa using ih.1 h skipped more q htail
    · intro h
      have hhere : p.matchAt? ⟨before, c :: rest, []⟩ = none :=
        matchAt?_eq_none_iff.2 fun q => h [] _ q rfl
      rw [hhere]
      refine ih.2 fun skipped more q hrest => ?_
      simpa using h (c :: skipped) more q (by rw [hrest, List.cons_append])

end Pattern

end Loadout
