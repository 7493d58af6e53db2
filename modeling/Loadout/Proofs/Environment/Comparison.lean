import Loadout.Proofs.Environment.Rebuild

/-!
# The comparison of builds is exact

The comparison of two builds marks a part exactly when the builds differ in it: a slot or a socket
when they do not hold the same there, another part when one of its fields is not the same. What
differs does so both ways, and where two builds differ a third one cannot agree with both. A record
lists changed members one by one and never lists none of them, so it can be told from what it marks.
Hence the comparison is symmetric, and what it marks is marked again on the way through any third
build.

Numbers are compared by the equality test, under which NaN differs from itself. It need only be
symmetric and transitive here.

## Main definitions

* `Part`: a part of a build that can be marked
* `Changes.Marks`, `Build.DiffersIn`: a record marks a part, and builds differ in it
* `Changes.Listed`: changed members are listed, and one at least

## Main results

* `Changes.marks_between_iff`: the comparison marks what differs
* `Changes.eq_of_marks`: a record that lists members can be told from what it marks
* `Changes.between_exact`: the comparison is exact, symmetric and composes
-/

namespace Loadout

variable {ν : Type}

/-- A part of a build that a record of changes can mark. -/
inductive Part where
  | passives
  | jewel (socket : Nat)
  | item (slot : Slot)
  | skills
  | settings
  | weaponSet
  deriving DecidableEq

/-! ### Where builds differ -/

namespace Build

variable [BEq ν]

/-- Two builds differ in a part. The class, the ascendancy, the nodes and the masteries are one
part. -/
def DiffersIn (a b : Build ν) : Part → Prop
  | .passives => a.className ≠ b.className ∨ a.ascendancy ≠ b.ascendancy ∨ a.nodes ≠ b.nodes ∨
      a.masteries ≠ b.masteries
  | .jewel socket => a.jewels[socket]? ≠ b.jewels[socket]?
  | .item slot => a.item? slot ≠ b.item? slot
  | .skills => a.skills ≠ b.skills
  | .settings => ¬ a.settings.Matches b.settings
  | .weaponSet => a.activeSet ≠ b.activeSet

variable [PartialEquivBEq ν] {a b c : Build ν} {part : Part}

theorem DiffersIn.symm (h : a.DiffersIn b part) : b.DiffersIn a part := by
  cases part with
  | passives => exact h.imp Ne.symm (Or.imp Ne.symm (Or.imp Ne.symm Ne.symm))
  | jewel socket => exact Ne.symm h
  | item slot => exact Ne.symm h
  | skills => exact Ne.symm h
  | settings => exact mt Settings.Matches.symm h
  | weaponSet => exact Ne.symm h

private theorem ne_or_ne {α : Type} {x y : α} (h : x ≠ y) (z : α) : x ≠ z ∨ z ≠ y :=
  not_and_or.mp fun ⟨hx, hy⟩ => h (hx.trans hy)

/-- Where two builds differ, a third one differs from one of them. -/
theorem DiffersIn.split (h : a.DiffersIn c part) (b : Build ν) :
    a.DiffersIn b part ∨ b.DiffersIn c part := by
  cases part with
  | passives =>
    rcases h with h | h | h | h
    · exact (ne_or_ne h b.className).imp .inl .inl
    · exact (ne_or_ne h b.ascendancy).imp (.inr ∘ .inl) (.inr ∘ .inl)
    · exact (ne_or_ne h b.nodes).imp (.inr ∘ .inr ∘ .inl) (.inr ∘ .inr ∘ .inl)
    · exact (ne_or_ne h b.masteries).imp (.inr ∘ .inr ∘ .inr) (.inr ∘ .inr ∘ .inr)
  | jewel socket => exact ne_or_ne h b.jewels[socket]?
  | item slot => exact ne_or_ne h (b.item? slot)
  | skills => exact ne_or_ne h b.skills
  | settings => exact not_and_or.mp fun ⟨hab, hbc⟩ => h (hab.trans hbc)
  | weaponSet => exact ne_or_ne h b.activeSet

end Build

/-! ### Records that list members -/

/-- A set of changed members says nothing or lists members, one at least. -/
def ChangeSet.Listed {κ : Type} [Ord κ] [Std.TransOrd κ] : ChangeSet κ → Prop
  | nothing => True
  | everything => False
  | members keys => keys ≠ ∅

namespace ChangeSet

variable {κ : Type} [Ord κ] [Std.TransOrd κ]

theorem listed_ofList (keys : List κ) : (ofList keys).Listed := by
  cases keys with
  | nil => trivial
  | cons key keys =>
    exact mt Std.ExtTreeSet.ofList_eq_empty_iff.mp (List.cons_ne_nil key keys)

theorem Listed.ext [Std.LawfulEqOrd κ] {s s' : ChangeSet κ} (h : s.Listed) (h' : s'.Listed)
    (hkeys : ∀ key, s.contains key = true ↔ s'.contains key = true) : s = s' := by
  -- A set without members lists none.
  have hempty {keys : Std.ExtTreeSet κ} (hnone : ∀ key, ¬ keys.contains key = true) : keys = ∅ :=
    Std.ExtTreeSet.eq_empty_iff_forall_not_mem.mpr fun key => hnone key
  cases s with
  | everything => exact absurd h id
  | nothing =>
    cases s' with
    | everything => exact absurd h' id
    | nothing => rfl
    | members keys => exact absurd (hempty fun key => mt (hkeys key).mpr Bool.false_ne_true) h'
  | members keys =>
    cases s' with
    | everything => exact absurd h' id
    | nothing => exact absurd (hempty fun key => mt (hkeys key).mp Bool.false_ne_true) h
    | members keys' => exact congrArg members (Std.ExtTreeSet.ext_mem hkeys)

end ChangeSet

namespace Changes

/-- A record marks a part. -/
def Marks (c : Changes) : Part → Prop
  | .passives => c.passives = true
  | .jewel socket => c.jewels.contains socket = true
  | .item slot => c.items.contains slot = true
  | .skills => c.skills = true
  | .settings => c.settings = true
  | .weaponSet => c.weaponSet = true

/-- The sockets and the slots of a record are listed. -/
structure Listed (c : Changes) : Prop where
  jewels : c.jewels.Listed
  items : c.items.Listed

/-- A record that lists members can be told from what it marks. -/
theorem eq_of_marks {c d : Changes} (hc : c.Listed) (hd : d.Listed)
    (h : ∀ part, c.Marks part ↔ d.Marks part) : c = d := by
  have hjewels : c.jewels = d.jewels := hc.jewels.ext hd.jewels fun socket => h (.jewel socket)
  have hitems : c.items = d.items := hc.items.ext hd.items fun slot => h (.item slot)
  have hpassives : c.passives = d.passives := Bool.eq_iff_iff.mpr (h .passives)
  have hskills : c.skills = d.skills := Bool.eq_iff_iff.mpr (h .skills)
  have hsettings : c.settings = d.settings := Bool.eq_iff_iff.mpr (h .settings)
  have hweapon : c.weaponSet = d.weaponSet := Bool.eq_iff_iff.mpr (h .weaponSet)
  cases c
  cases d
  simp only at hjewels hitems hpassives hskills hsettings hweapon
  rw [hjewels, hitems, hpassives, hskills, hsettings, hweapon]

/-! ### The comparison -/

variable [BEq ν]

theorem listed_between (a b : Build ν) : (between a b).Listed :=
  ⟨ChangeSet.listed_ofList _, ChangeSet.listed_ofList _⟩

/-- The comparison of two builds marks the parts in which they differ. -/
theorem marks_between_iff (a b : Build ν) (part : Part) :
    (between a b).Marks part ↔ a.DiffersIn b part := by
  cases part with
  | passives =>
    simp only [Marks, between, Build.DiffersIn, Bool.or_eq_true, bne_iff_ne, or_assoc]
  | jewel socket => exact contains_differingKeys a.jewels b.jewels socket
  | item slot => exact contains_differingKeys a.items b.items slot
  | skills => exact bne_iff_ne
  | settings =>
    change (!(a.settings == b.settings)) = true ↔ ¬ a.settings.Matches b.settings
    rw [Bool.not_eq_true', ← Bool.not_eq_true, Settings.beq_iff_matches]
  | weaponSet => exact bne_iff_ne

/-- The comparison of two builds marks exactly the parts in which they differ, lists the changed
sockets and slots, and is the same both ways. Whatever differs between two builds differs on the way
to or from any third one. -/
theorem between_exact [PartialEquivBEq ν] (a b : Build ν) :
    (∀ part, (between a b).Marks part ↔ a.DiffersIn b part) ∧
      (between a b).Listed ∧
      between a b = between b a ∧
      ∀ c part, (between a c).Marks part → (between a b).Marks part ∨ (between b c).Marks part := by
  refine ⟨marks_between_iff a b, listed_between a b, ?_, fun c part h => ?_⟩
  · refine eq_of_marks (listed_between a b) (listed_between b a) fun part => ?_
    rw [marks_between_iff, marks_between_iff]
    exact ⟨.symm, .symm⟩
  · rw [marks_between_iff] at h ⊢
    rw [marks_between_iff]
    exact h.split b

/-- A ring moves from one weapon set to the other: both slots are marked, and each of them is marked
on the way through a build without the ring. -/
theorem between_exact_moved :
    let worn : Slot := ⟨.first, "Ring 1"⟩
    let spare : Slot := ⟨.second, "Ring 1"⟩
    let bare : Build Float := .ofClass "Witch"
    let old := bare.setItem worn (some { id := "ring" })
    let new := bare.setItem spare (some { id := "ring" })
    (between old new).Marks (.item worn) ∧ (between old new).Marks (.item spare) ∧
      ¬ (between old new).Marks .skills ∧ (between old new).Listed ∧
      between old new = between new old ∧
      ((between old bare).Marks (.item worn) ∨ (between bare new).Marks (.item worn)) := by
  intro worn spare bare old new
  obtain ⟨hmarks, hlisted, hcomm, -⟩ := between_exact old new
  obtain ⟨-, -, -, hsplit⟩ := between_exact old bare
  have hworn : old.DiffersIn new (.item worn) := by
    rw [Build.DiffersIn, Build.item?_setItem, Build.item?_setItem]
    decide
  have hspare : old.DiffersIn new (.item spare) := by
    rw [Build.DiffersIn, Build.item?_setItem, Build.item?_setItem]
    decide
  have hskills : ¬ (between old new).Marks .skills := fun h => (hmarks .skills).mp h rfl
  exact ⟨(hmarks _).mpr hworn, (hmarks _).mpr hspare, hskills, hlisted, hcomm,
    hsplit new (.item worn) ((hmarks _).mpr hworn)⟩

end Changes

end Loadout
