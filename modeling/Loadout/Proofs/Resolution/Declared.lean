import Mathlib.Data.Set.Finite.Lemmas
import Mathlib.Order.WellFounded
import Mathlib.Tactic.Set
import Loadout.Proofs.Number.Rational
import Loadout.Proofs.Resolution.Contributions
import Loadout.Proofs.Resolution.Queries
import Loadout.Proofs.Store.Index

/-!
# What stats are declared to come to

Where no stat depends on itself, each comes to totals that are defined from those of the stats
that it reads: in the default situation with the flags of the call, and with every stat that a
condition reads at its own value, the last override decides; otherwise bases and increases add up
with what the attributes grant, and the "more" factors multiply. A resolver answers these totals,
whatever it was asked before, and keeps the answer.

Numbers are rationals here, so nothing is rounded.

## Main definitions

* `Totals`: the numbers of a resolved stat
* `Ground.total`: the totals of a key, given the values of all stats
* `Ground.Declares`: the totals of a key by recursion over what it reads

## Main results

* `Ground.totals_settle`: settling a key comes to its totals
* `Ground.Declares.unique`: a key is declared to come to at most one thing
* `Ground.declares_afresh`: where nothing depends on itself, the answer is as declared
* `Resolver.resolve_declared`: a resolver answers what is declared, and keeps it
-/

namespace Loadout

/-! ### Totals -/

/-- The numbers of a resolved stat. -/
structure Totals (ν : Type) where
  value : ν
  base : ν
  increased : ν
  more : ν
  override : Option ν

/-- The numbers of a resolved stat, without its contributions. -/
def Resolved.totals {ν : Type} (answer : Resolved ν) : Totals ν :=
  ⟨answer.value, answer.base, answer.increased, answer.more, answer.override⟩

namespace Ground

variable (g : Ground Rat)

/-- What the attributes grant to a key in bases or in increases, at certain values. -/
def granted (key : ResolverKey) (value : String → Rat) (kind : Kind) : Rat :=
  (((g.rules key).filter fun rule => rule.kind == kind).map fun rule =>
    rule.bonus (value rule.source)).sum

/-- What a key comes to when every stat has a certain value. -/
def total (key : ResolverKey) (value : String → Rat) : Totals Rat :=
  let ctx := g.known key value
  match g.store.override? key.stat ctx with
  | some x => { value := x, base := 0, increased := 0, more := 1, override := some x }
  | none =>
    let base := g.store.sum .base key.stat ctx + g.granted key value .base
    let increased := g.store.sum .increased key.stat ctx + g.granted key value .increased
    let more := g.store.more key.stat ctx
    { base, increased, more, value := base * (1 + increased) * more, override := none }

variable {g}

section Combined

variable {store : Store Rat} {stat : String} {ctx : Context Rat}
  {attributes : List (AttributeRule Rat × Rat)}
  (h : ∀ entry ∈ attributes, entry.1.kind = .base ∨ entry.1.kind = .increased)
include h

/-- The base of a stat without an override is the sum of its base modifiers and of the bases that
attributes contribute. -/
theorem base_combined :
    (Resolved.combined store stat ctx attributes).base = store.sum .base stat ctx +
      Scalar.sum (Resolved.valuesOf .base (Resolved.fromAttributes attributes)) := by
  simp only [Resolved.combined_eq_ofContributions h, Resolved.ofContributions, Resolved.tallied,
    Resolved.valuesOf_append, Resolved.valuesOf_fromStore, reduceCtorEq, if_true, if_false,
    List.append_nil]
  rw [Scalar.sum_append_rat]
  rfl

theorem increased_combined :
    (Resolved.combined store stat ctx attributes).increased = store.sum .increased stat ctx +
      Scalar.sum (Resolved.valuesOf .increased (Resolved.fromAttributes attributes)) := by
  simp only [Resolved.combined_eq_ofContributions h, Resolved.ofContributions, Resolved.tallied,
    Resolved.valuesOf_append, Resolved.valuesOf_fromStore, reduceCtorEq, if_true, if_false,
    List.append_nil, List.nil_append]
  rw [Scalar.sum_append_rat]
  rfl

/-- Attributes contribute no factors. -/
theorem more_combined :
    (Resolved.combined store stat ctx attributes).more = store.more stat ctx := by
  have hfactors : Resolved.valuesOf .more (Resolved.fromAttributes attributes) = [] := by
    rw [Resolved.valuesOf, List.filter_eq_nil_iff.mpr, List.map_nil]
    intro c hc
    obtain ⟨entry, hentry, hkind⟩ := Resolved.kind_of_mem_fromAttributes hc
    rcases hkind ▸ h entry hentry with hkind | hkind <;> rw [hkind] <;> decide
  simp only [Resolved.combined_eq_ofContributions h, Resolved.ofContributions, Resolved.tallied,
    Resolved.valuesOf_append, Resolved.valuesOf_fromStore, reduceCtorEq, if_true, if_false,
    List.nil_append, hfactors]
  rw [List.map_map]
  rfl

end Combined

private theorem sum_valuesOf_fromAttributes (key : ResolverKey) (value : String → Rat)
    (kind : Kind) :
    Scalar.sum (Resolved.valuesOf kind (Resolved.fromAttributes
      ((g.rules key).map fun rule => (rule, value rule.source)))) = g.granted key value kind := by
  have hvalues : Resolved.valuesOf kind (Resolved.fromAttributes
      ((g.rules key).map fun rule => (rule, value rule.source))) =
      (((g.rules key).filter fun rule => rule.kind == kind).map fun rule =>
        rule.bonus (value rule.source)).filter fun x => !(x == Scalar.zero) := by
    rw [Resolved.valuesOf, Resolved.fromAttributes, List.map_map, List.filter_map,
      List.filter_map, List.map_map, List.filter_map, List.filter_filter, List.filter_filter]
    simp only [Function.comp_def, Bool.and_comm]
  rw [hvalues, Scalar.sum_filter_ne_zero_rat, Scalar.sum_rat, granted]

/-- Settling a key comes to its totals: bonuses of zero, which are no contributions, do not count,
and the order of the contributions does not matter. -/
theorem totals_settle (key : ResolverKey) (value : String → Rat) :
    (g.settle key value).totals = g.total key value := by
  unfold settle total Resolved.overridden? Store.override?
  dsimp only
  cases (g.store.matching .override key.stat (g.known key value)).getLast? with
  | some entry => rfl
  | none =>
    set ctx := g.known key value
    set attributes := (g.rules key).map fun rule => (rule, value rule.source)
    have hkinds : ∀ entry ∈ attributes, entry.1.kind = .base ∨ entry.1.kind = .increased :=
      List.forall_mem_map.mpr fun rule hrule => kind_of_mem_rules hrule
    have hbase : (Resolved.combined g.store key.stat ctx attributes).base =
        g.store.sum .base key.stat ctx + g.granted key value .base := by
      rw [base_combined hkinds, sum_valuesOf_fromAttributes]
    have hincreased : (Resolved.combined g.store key.stat ctx attributes).increased =
        g.store.sum .increased key.stat ctx + g.granted key value .increased := by
      rw [increased_combined hkinds, sum_valuesOf_fromAttributes]
    have hmore : (Resolved.combined g.store key.stat ctx attributes).more =
        g.store.more key.stat ctx := more_combined hkinds
    have hvalue : (Resolved.combined g.store key.stat ctx attributes).value =
        (Resolved.combined g.store key.stat ctx attributes).base *
          (1 + (Resolved.combined g.store key.stat ctx attributes).increased) *
          (Resolved.combined g.store key.stat ctx attributes).more := rfl
    have hoverride : (Resolved.combined g.store key.stat ctx attributes).override = none := by
      rw [Resolved.combined_eq_ofContributions hkinds]
      rfl
    simp only [Option.map_none, Resolved.totals, hvalue, hbase, hincreased, hmore, hoverride]

/-! ### Totals by recursion -/

/-- A key comes to its totals at the values that are declared for the stats it reads, each under the
default flags. -/
inductive Declares (g : Ground Rat) : ResolverKey → Totals Rat → Prop
  | intro (key : ResolverKey) (totals : String → Totals Rat)
      (h : ∀ stat, g.Reads key.stat stat → Declares g (g.defaultKey stat) (totals stat)) :
      Declares g key (g.total key fun stat => (totals stat).value)

theorem total_congr {key : ResolverKey} {value value' : String → Rat}
    (h : ∀ stat, g.Reads key.stat stat → value stat = value' stat) :
    g.total key value = g.total key value' := by
  rw [← totals_settle, ← totals_settle]
  exact congrArg Resolved.totals
    (settle_congr fun stat hstat => h stat (reads_of_mem_consulted hstat))

/-- A key is declared to come to at most one thing. -/
theorem Declares.unique {key : ResolverKey} {totals totals' : Totals Rat}
    (h : g.Declares key totals) (h' : g.Declares key totals') : totals = totals' := by
  induction h generalizing totals' with
  | intro key below hbelow ih =>
    obtain ⟨_, below', hbelow'⟩ := h'
    exact total_congr fun stat hstat => congrArg Totals.value (ih stat hstat (hbelow' stat hstat))

/-! ### Where nothing depends on itself -/

/-- No stat that a stat depends on, itself included, depends on itself. -/
def Acyclic {ν : Type} [Scalar ν] (g : Ground ν) (stat : String) : Prop :=
  ∀ other, Relation.ReflTransGen g.Reads stat other → ¬ Relation.TransGen g.Reads other other

section Acyclic

variable {ν : Type} [Scalar ν] {g : Ground ν} {stat : String}

theorem closed_depends (g : Ground ν) (stat : String) :
    g.Closed (Relation.ReflTransGen g.Reads stat) :=
  fun _ _ h hreads => h.tail hreads

theorem Acyclic.not_meets (h : g.Acyclic stat) {region : String → Prop}
    {stack : List ResolverKey} {key : ResolverKey} (hreached : g.Reached region stack key)
    (hkey : Relation.ReflTransGen g.Reads stat key.stat) :
    ∀ met ∈ stack, ¬ g.Meets stack key met :=
  fun met hmet hmeets => h key.stat hkey ((hreached.reads met hmet).trans_right hmeets.reads)

theorem Acyclic.not_meets_self (h : g.Acyclic stat) {key : ResolverKey}
    (hkey : Relation.ReflTransGen g.Reads stat key.stat) : ¬ g.Meets [] key key :=
  fun hmeets => h key.stat hkey (hmeets.reads_of_notMem List.not_mem_nil)

theorem Acyclic.undisturbed (h : g.Acyclic stat) :
    g.Undisturbed (Relation.ReflTransGen g.Reads stat) :=
  fun _ hkey _ ⟨_, hreached, met, hmet, hmeets⟩ => h.not_meets hreached hkey met hmet hmeets

/-- Where nothing depends on itself, properties follow from those of the stats that are read: only
finitely many are mentioned. -/
theorem Acyclic.induction {P : String → Prop} (h : g.Acyclic stat)
    (step : ∀ other, Relation.ReflTransGen g.Reads stat other →
      (∀ read, g.Reads other read → P read) → P other) : P stat := by
  let Below := { other : String // other ∈ g.mentioned ∧ Relation.ReflTransGen g.Reads stat other }
  have hfinite : Finite Below :=
    (g.mentioned.finite_toSet.subset fun other hother => hother.1).to_subtype
  have hbelow (other : Below) : P other.1 := by
    have hwf : WellFounded fun a b : Below => Relation.TransGen g.Reads b.1 a.1 := by
      have htrans : IsTrans Below fun a b => Relation.TransGen g.Reads b.1 a.1 :=
        ⟨fun _ _ _ hab hbc => hbc.trans hab⟩
      have hirrefl : Std.Irrefl fun a b : Below => Relation.TransGen g.Reads b.1 a.1 :=
        ⟨fun a ha => h a.1 a.2.2 ha⟩
      exact Finite.wellFounded_of_trans_of_irrefl _
    induction other using hwf.induction with
    | h other ih =>
      refine step other.1 other.2.2 fun read hread => ?_
      exact ih ⟨read, mem_mentioned_of_reads hread, other.2.2.tail hread⟩ (.single hread)
  refine step stat .refl fun read hread => ?_
  exact hbelow ⟨read, mem_mentioned_of_reads hread, .single hread⟩

end Acyclic

/-- Where nothing depends on itself, the answer to a key asked alone is as declared. -/
theorem declares_afresh {key : ResolverKey} (h : g.Acyclic key.stat) :
    g.Declares key (g.afresh [] key).totals := by
  have hall : ∀ other : ResolverKey, other.stat = key.stat →
      g.Declares other (g.afresh [] other).totals := by
    refine h.induction (P := fun stat => ∀ other : ResolverKey, other.stat = stat →
      g.Declares other (g.afresh [] other).totals) fun stat hstat ih other hother => ?_
    subst hother
    have hvalues (read : String) (hread : read ∈ g.asks [] other) :
        g.valuesBelow [] other read = (g.afresh [] (g.defaultKey read)).totals.value := by
      have hreached : g.Reached (fun _ => True) [other] (g.defaultKey read) :=
        (Reached.top other).ask_afresh List.not_mem_nil hread
      rw [valuesBelow, hreached.afresh_eq_alone (h.not_meets hreached
        (hstat.tail (reads_of_mem_consulted hread)))]
      rfl
    have hafresh : (g.afresh [] other).totals =
        g.total other fun read => (g.afresh [] (g.defaultKey read)).totals.value := by
      rw [afresh_eq List.not_mem_nil (by rw [budget, List.length_nil]; omega),
        settle_congr hvalues, totals_settle]
    rw [hafresh]
    exact .intro other _ fun read hread => ih read hread _ rfl
  exact hall key rfl

end Ground

/-! ### What a resolver answers -/

/-- Where nothing that a stat depends on depends on itself, a resolver answers what is declared for
the stat, under any flags and whatever it was asked before, and then keeps that answer. -/
theorem Resolver.resolve_declared (g : Ground Rat) {stat : String} (h : g.Acyclic stat)
    (earlier : List Query) (flags : Option DamageFlags) (keywords : Option KeywordFlags) :
    let r := ((ofStore g.store g.defaults).askAll earlier).2
    let answer := (r.resolve stat flags keywords).1
    (∀ totals, g.Declares (g.keyOf stat flags keywords) totals ↔ answer.totals = totals) ∧
      (r.resolve stat flags keywords).2.cached? (g.keyOf stat flags keywords) = some answer := by
  intro r answer
  have hclosed := g.closed_depends stat
  have hearlier := (ready_ofStore g.store g.defaults Nowhere).askAll hclosed earlier
  have hresolve := hearlier.returns.ready.resolve hclosed stat flags keywords
  obtain ⟨-, -, hanswer⟩ := (hearlier.trans hresolve).right
    (harmless_of_undisturbed h.undisturbed _) (ready_ofStore g.store g.defaults _)
  obtain ⟨hafresh, hkeeps⟩ := hanswer .refl
  have hdeclares : g.Declares (g.keyOf stat flags keywords) answer.totals := by
    rw [show answer = _ from hafresh]
    exact Ground.declares_afresh h
  refine ⟨fun totals => ⟨fun htotals => hdeclares.unique htotals, ?_⟩, hkeeps ?_⟩
  · rintro rfl
    exact hdeclares
  · exact h.not_meets_self .refl

/-- Stats are not part of a cycle when what they read has a smaller rank. -/
theorem Ground.acyclic_of_rank {ν : Type} [Scalar ν] {g : Ground ν} (rank : String → Nat)
    (h : ∀ stat other, g.Reads stat other → rank other < rank stat) (stat : String) :
    g.Acyclic stat := by
  have htrans {a b : String} (hab : Relation.TransGen g.Reads a b) : rank b < rank a := by
    induction hab with
    | single hread => exact h _ _ hread
    | tail _ hread ih => exact Nat.lt_trans (h _ _ hread) ih
  exact fun other _ hcycle => Nat.lt_irrefl _ (htrans hcycle)

theorem Ground.acyclic_ofList {ms : List (Modifier Rat)} {defaults : Context Rat}
    (rank : String → Nat)
    (hconditions : ∀ m ∈ ms, ∀ read ∈ m.condition.bind Condition.stat?, rank read < rank m.stat)
    (hrules : ∀ rule ∈ (AttributeRule.all : List (AttributeRule Rat)),
      rank rule.source < rank rule.target) (stat : String) :
    Acyclic ⟨.ofList ms, defaults⟩ stat := by
  refine acyclic_of_rank rank (fun stat other hreads => ?_) stat
  rcases hreads with ⟨m, hm, hread, -⟩ | ⟨rule, hrule, rfl, rfl⟩
  · rw [Store.on_ofList, List.mem_filter] at hm
    rw [← beq_iff_eq.mp hm.2]
    exact hconditions m hm.1 other hread
  · exact hrules rule hrule

/-- Strength grants life, and damage counts the life. -/
def Ground.lifeScaling : Ground Rat where
  store := .ofList [
    .number "Strength" .base 20 .custom,
    .number "Life" .base 100 .custom,
    { stat := "Damage", kind := .base, value := .number 3,
      condition := some (.multiplier "Life" 50 none) }]
  defaults := .empty

theorem Ground.acyclic_lifeScaling (stat : String) : lifeScaling.Acyclic stat :=
  acyclic_ofList (fun stat => if stat = "Damage" then 2 else if stat ∈ coreAttributes then 0 else 1)
    (by decide) (by decide) stat

/-- The damage of the example, asked for after its strength and its life. -/
theorem Resolver.resolve_declared_lifeScaling :
    let r : Resolver Rat := ((ofStore Ground.lifeScaling.store .empty).askAll
      [.value "Strength", .several ["Life", "Strength"]]).2
    let answer := (r.resolve "Damage" (some (.single 5)) none).1
    Ground.lifeScaling.Acyclic "Damage" ∧
      (∀ totals, Ground.lifeScaling.Declares ⟨"Damage", .single 5, .empty⟩ totals ↔
        answer.totals = totals) ∧
      (r.resolve "Damage" (some (.single 5)) none).2.cached? ⟨"Damage", .single 5, .empty⟩ =
        some answer :=
  ⟨Ground.acyclic_lifeScaling "Damage", Resolver.resolve_declared Ground.lifeScaling
    (Ground.acyclic_lifeScaling "Damage") _ (some (.single 5)) none⟩

end Loadout
