import Mathlib.Data.Nat.Find
import Loadout.Proofs.Resolution.Visits

/-!
# When kept answers hide nothing

Whether an override applies decides whether the attributes that feed a stat are asked for. This
can depend on a zero only when the override is subject to a stat in a cycle with its own stat,
and it can matter to the cycle only when the attribute is in one too. A region of stats is steady
when this occurs nowhere in it. Then each of its stats asks for the same stats of its cycle
whatever the stack, so an answer that rests on a zero inside the resolution of another stat also
rests on one when its own key is asked alone.

## Main definitions

* `Ground.Steady`: no override decides within a cycle whether an attribute is asked for
* `Ground.Follows`: one key is asked for by another on some stack

## Main results

* `Ground.Steady.mem_asks`: what a key asks for within its cycle does not depend on the stack
* `Ground.Steady.meets_self`: a key in a cycle meets itself when it is asked for alone
* `Ground.Steady.undisturbed`: no kept answer hides that a key is met
-/

namespace Loadout

variable {ν : Type} [Scalar ν]

theorem Modifier.effect?_congr {m : Modifier ν} {ctx ctx' : Context ν}
    {stats : Std.ExtTreeMap String ν} (hrest : { ctx with stats } = { ctx' with stats })
    (hread : ∀ read, m.condition.bind Condition.stat? = some read →
      ctx.stat? read = ctx'.stat? read) : m.effect? ctx = m.effect? ctx' := by
  simp only [Context.mk.injEq] at hrest
  obtain ⟨hflags, hkeywords, hconditions, -, hslot⟩ := hrest
  unfold effect?
  rw [hflags, hkeywords, hslot]
  cases hm : m.condition with
  | none => rfl
  | some condition =>
    have hfactor : condition.factor? ctx = condition.factor? ctx' := by
      cases condition with
      | state name negated =>
        unfold Condition.factor? Context.holds
        rw [hconditions]
      | threshold stat bound atLeast =>
        simp only [Condition.factor?, hread stat (by rw [hm]; rfl)]
      | multiplier stat per limit =>
        simp only [Condition.factor?, hread stat (by rw [hm]; rfl)]
    dsimp only
    rw [hfactor]

/-- Which override decides depends on the stats alone that conditions of overrides read. -/
theorem Resolved.overridden?_congr {store : Store ν} {stat : String} {ctx ctx' : Context ν}
    {stats : Std.ExtTreeMap String ν} (hrest : { ctx with stats } = { ctx' with stats })
    (hread : ∀ m ∈ store.on stat, m.kind = .override → ∀ read,
      m.condition.bind Condition.stat? = some read → ctx.stat? read = ctx'.stat? read) :
    Resolved.overridden? store stat ctx = Resolved.overridden? store stat ctx' := by
  have hmatching : store.matching .override stat ctx = store.matching .override stat ctx' := by
    refine List.filterMap_congr fun m hm => ?_
    obtain ⟨hon, hkind⟩ := List.mem_filter.mp hm
    rw [Modifier.effect?_congr hrest (hread m hon (beq_iff_eq.mp hkind))]
  rw [overridden?, overridden?, hmatching]

namespace Ground

variable (g : Ground ν) (region : String → Prop)

/-- On no stat of a region does an override that is subject to another stat stand beside an
attribute, such that both the other stat and the attribute depend on the stat in turn. -/
def Steady : Prop :=
  ∀ stat, region stat → ∀ m ∈ g.store.on stat, m.kind = .override →
    ∀ read, m.condition.bind Condition.stat? = some read → read ∉ g.defaults.stats →
      ∀ rule ∈ (AttributeRule.all : List (AttributeRule ν)), rule.target = stat →
        ¬ (Relation.ReflTransGen g.Reads read stat ∧
          Relation.ReflTransGen g.Reads rule.source stat)

/-- One key asks for another on some stack on which it can be asked for. -/
def Follows (key next : ResolverKey) : Prop :=
  ∃ stack, g.Reached region stack key ∧ key ∉ stack ∧
    ∃ stat ∈ g.asks stack key, next = g.defaultKey stat

/-- One key leads to another in a certain number of requests. -/
def FollowsIn (goal : ResolverKey) : Nat → ResolverKey → Prop
  | 0, key => key = goal
  | n + 1, key => ∃ next, g.Follows region key next ∧ FollowsIn goal n next

variable {g region}

theorem Closed.of_reads (h : g.Closed region) {stat other : String}
    (hreads : Relation.ReflTransGen g.Reads stat other) (hstat : region stat) : region other := by
  induction hreads with
  | refl => exact hstat
  | tail _ hread ih => exact h _ _ ih hread

theorem Follows.reads {key next : ResolverKey} (h : g.Follows region key next) :
    g.Reads key.stat next.stat := by
  obtain ⟨stack, -, -, stat, hstat, rfl⟩ := h
  exact reads_of_mem_consulted hstat

theorem FollowsIn.reads {goal : ResolverKey} {n : Nat} {key : ResolverKey}
    (h : g.FollowsIn region goal n key) : Relation.ReflTransGen g.Reads key.stat goal.stat := by
  induction n generalizing key with
  | zero => rw [show key = goal from h]
  | succ n ih =>
    obtain ⟨next, hfollows, hrest⟩ := h
    exact .head hfollows.reads (ih hrest)

theorem exists_followsIn {key goal : ResolverKey}
    (h : Relation.ReflTransGen (g.Follows region) key goal) :
    ∃ n, g.FollowsIn region goal n key := by
  induction h using Relation.ReflTransGen.head_induction_on with
  | refl => exact ⟨0, rfl⟩
  | head hfollows _ ih =>
    obtain ⟨n, hn⟩ := ih
    exact ⟨n + 1, _, hfollows, hn⟩

/-- Every key of the region on a stack leads to the key that is asked for on it. -/
theorem Reached.follows {stack : List ResolverKey} {key : ResolverKey} (hclosed : g.Closed region)
    (h : g.Reached region stack key) :
    ∀ other ∈ stack, region other.stat → Relation.TransGen (g.Follows region) other key := by
  induction h with
  | top key => exact fun other hother => absurd hother List.not_mem_nil
  | ask h hkey hreads hasks ih =>
    intro other hother hregion
    rcases List.mem_cons.mp hother with rfl | hother
    · exact .single ⟨_, h, hkey, _, hasks hregion, rfl⟩
    · have hbelow := hclosed.of_reads (h.reads other hother).to_reflTransGen hregion
      exact (ih other hother hregion).tail ⟨_, h, hkey, _, hasks hbelow, rfl⟩

theorem Meets.follows {stack : List ResolverKey} {key met : ResolverKey}
    (h : g.Meets stack key met) (hreached : g.Reached region stack key) :
    Relation.ReflTransGen (g.Follows region) key met := by
  induction h with
  | again h => exact .refl
  | ask hkey hstat h ih =>
    exact .head ⟨_, hreached, hkey, _, hstat, rfl⟩ (ih (hreached.ask_afresh hkey hstat))

/-- A stat that does not lead back to the key that reads it has one value on all stacks. -/
theorem valuesBelow_eq_alone {stack : List ResolverKey} {key : ResolverKey} {stat : String}
    (hreached : g.Reached region stack key) (hkey : key ∉ stack)
    (hstat : stat ∈ g.asks stack key) (hback : ¬ Relation.ReflTransGen g.Reads stat key.stat) :
    g.valuesBelow stack key stat = (g.afresh [] (g.defaultKey stat)).value := by
  rw [valuesBelow, (hreached.ask_afresh hkey hstat).afresh_eq_alone fun met hmet hmeets => ?_]
  refine hback (hmeets.reads.trans ?_)
  rcases List.mem_cons.mp hmet with rfl | hmet
  · exact .refl
  · exact (hreached.reads met hmet).to_reflTransGen

namespace Steady

/-- What a key asks for within its cycle does not depend on the stack. -/
theorem mem_asks (h : g.Steady region) {stack stack' : List ResolverKey} {key : ResolverKey}
    {stat : String} (hreached : g.Reached region stack key) (hkey : key ∉ stack)
    (hreached' : g.Reached region stack' key) (hkey' : key ∉ stack')
    (hregion : region key.stat) (hstat : stat ∈ g.asks stack key)
    (hback : Relation.ReflTransGen g.Reads stat key.stat) : stat ∈ g.asks stack' key := by
  by_cases hunknown : stat ∈ g.unknowns key.stat
  · exact mem_consulted_of_mem_unknowns hunknown
  · -- An attribute was asked for, so no override applied, and none does on the other stack.
    have hmem := hstat
    rw [asks, consulted, List.mem_append] at hmem
    replace hmem := hmem.resolve_left hunknown
    cases hover : Resolved.overridden? g.store key.stat
        (g.known key (g.valuesBelow stack key)) with
    | some answer =>
      rw [hover] at hmem
      exact absurd hmem List.not_mem_nil
    | none =>
      rw [hover] at hmem
      obtain ⟨rule, hrule, rfl⟩ := List.mem_map.mp hmem
      obtain ⟨hall, htarget⟩ := List.mem_filter.mp (List.mem_filter.mp hrule).1
      refine mem_consulted_of_mem_rules (Eq.trans (Eq.symm ?_) hover) hrule
      have hrest := (known_rest (g := g) key (g.valuesBelow stack key)).trans
        (known_rest (g := g) key (g.valuesBelow stack' key)).symm
      refine Resolved.overridden?_congr hrest fun m hm hkind read hread => ?_
      rw [stat?_known, stat?_known]
      by_cases hask : read ∈ g.unknowns key.stat
      · obtain ⟨-, -, -, hunpinned⟩ := g.mem_unknowns.mp hask
        have hnot : ¬ Relation.ReflTransGen g.Reads read key.stat := fun hreadback =>
          h key.stat hregion m hm hkind read hread hunpinned rule hall (beq_iff_eq.mp htarget)
            ⟨hreadback, hback⟩
        rw [if_pos hask, if_pos hask,
          valuesBelow_eq_alone hreached hkey (mem_consulted_of_mem_unknowns hask) hnot,
          valuesBelow_eq_alone hreached' hkey' (mem_consulted_of_mem_unknowns hask) hnot]
      · rw [if_neg hask, if_neg hask]

/-- A key leads to another by a shortest way, on which no key of the stack lies but the goal. -/
private theorem meets_goal (hclosed : g.Closed region) (h : g.Steady region)
    {goal : ResolverKey} {n : Nat} {stack : List ResolverKey} {key : ResolverKey}
    (hreached : g.Reached region stack key) (hregion : region key.stat) (hgoal : goal ∈ stack)
    (hway : g.FollowsIn region goal n key)
    (hshortest : ∀ m < n, ¬ g.FollowsIn region goal m key)
    (hstack : ∀ other ∈ stack, other ≠ goal → ∀ m ≤ n, ¬ g.FollowsIn region goal m other) :
    g.Meets stack key goal := by
  induction n generalizing stack key with
  | zero =>
    obtain rfl : key = goal := hway
    exact .again hgoal
  | succ n ih =>
    have hne : key ≠ goal := fun heq => hshortest 0 (Nat.succ_pos n) heq
    have hkey : key ∉ stack := fun hmem => hstack key hmem hne (n + 1) (Nat.le_refl _) hway
    obtain ⟨next, ⟨other, hother, hkey', stat, hstat, rfl⟩, hrest⟩ := hway
    -- The way leads on within a cycle through the goal, so it can be taken on this stack too.
    have hback : Relation.ReflTransGen g.Reads stat key.stat :=
      hrest.reads.trans (hreached.reads goal hgoal).to_reflTransGen
    have hstat' := h.mem_asks hother hkey' hreached hkey hregion hstat hback
    refine .ask hkey hstat' (ih (hreached.ask_afresh hkey hstat')
      (hclosed _ _ hregion (reads_of_mem_consulted hstat')) (List.mem_cons_of_mem _ hgoal) hrest
      (fun m hm hshorter => ?_) fun y hy hyne m hm => ?_)
    · exact hshortest (m + 1) (Nat.succ_lt_succ hm)
        ⟨_, ⟨other, hother, hkey', stat, hstat, rfl⟩, hshorter⟩
    · rcases List.mem_cons.mp hy with rfl | hy
      · exact hshortest m (Nat.lt_succ_of_le hm)
      · exact hstack y hy hyne m (Nat.le_succ_of_le hm)

/-- A key that leads to itself meets itself when it is asked for alone. -/
theorem meets_self (hclosed : g.Closed region) (h : g.Steady region) {key : ResolverKey}
    (hregion : region key.stat) (hcycle : Relation.TransGen (g.Follows region) key key) :
    g.Meets [] key key := by
  obtain ⟨next, ⟨stack, hreached, hkey, stat, hstat, rfl⟩, hrest⟩ :=
    Relation.TransGen.head'_iff.mp hcycle
  have hway := exists_followsIn hrest
  have hback : Relation.ReflTransGen g.Reads stat key.stat := by
    obtain ⟨n, hn⟩ := hway
    exact hn.reads
  have hstat' := h.mem_asks hreached hkey (.top key) List.not_mem_nil hregion hstat hback
  classical
  refine .ask List.not_mem_nil hstat' (meets_goal hclosed h
    ((Reached.top key).ask_afresh List.not_mem_nil hstat')
    (hclosed _ _ hregion (reads_of_mem_consulted hstat')) List.mem_cons_self
    (Nat.find_spec hway) (fun m hm => Nat.find_min hway hm) fun other hother hne => ?_)
  exact absurd (List.mem_singleton.mp hother) hne

/-- In a steady region no kept answer hides that a key is met. -/
theorem undisturbed (hclosed : g.Closed region) (h : g.Steady region) :
    g.Undisturbed region := by
  rintro key hregion halone ⟨stack, hreached, met, hmet, hmeets⟩
  have hregion' := hclosed.of_reads hmeets.reads hregion
  exact halone (meets_self hclosed h hregion
    (.trans_right (hmeets.follows hreached) (hreached.follows hclosed met hmet hregion')))

end Steady

end Ground

end Loadout
