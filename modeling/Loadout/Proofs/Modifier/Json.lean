import Loadout.Proofs.Modifier.RoundTrip

/-!
# Modifiers and tables survive as JSON texts

A modifier, or a set of parser tables, is written as a JSON text by encoding it as a document
and writing that, and read by the two steps the other way. Only its numbers can be lost on
the way: an infinite or undefined one has no spelling in JSON, and a finite one comes back as
it was when its spelling does. Nothing is asked of the texts and the flags.

## Main definitions

* `Modifier.numbers`, `ParserTables.numbers`: the numbers that a value holds

## Main results

* `json_roundTrip`: a modifier and tables whose numbers read back are themselves read back
-/

namespace Loadout

open Document

variable {ν : Type}

/-! ### The numbers of a value -/

/-- The number that a modifier carries, if it carries one. -/
def Value.numbers : Value ν → List ν
  | number x => [x]
  | flag _ => []
  | entry _ => []

/-- The bound of a condition, or its step and limit. -/
def Condition.numbers : Condition ν → List ν
  | state _ _ => []
  | threshold _ bound _ => [bound]
  | multiplier _ per limit => per :: limit.toList

/-- The numbers of a modifier. -/
def Modifier.numbers (m : Modifier ν) : List ν :=
  m.value.numbers ++ m.condition.toList.flatMap Condition.numbers

/-- The numbers of a form. -/
def FormRow.numbers (r : FormRow ν) : List ν :=
  r.scale :: r.value.toList

/-- The numbers of an effect. -/
def EffectRow.numbers (r : EffectRow ν) : List ν :=
  r.value.numbers ++ r.scale :: r.condition.toList.flatMap Condition.numbers

/-- The numbers of all rows of some tables. -/
def ParserTables.numbers (t : ParserTables ν) : List ν :=
  t.forms.flatMap FormRow.numbers ++ t.conditions.flatMap (·.condition.numbers) ++
    t.known.flatMap (·.effects.flatMap EffectRow.numbers)

variable [Scalar ν] {numeral : ν → String}

/-! ### Their documents can be written -/

theorem writable_names (names : List String) :
    (namesToDocument (ν := ν) names).Writable numeral :=
  writable_ofList fun s _ => .text s

theorem Value.writable (v : Value ν) (h : ∀ x ∈ v.numbers, ReadsBack numeral x) :
    v.toDocument.Writable numeral := by
  cases v with
  | number x => exact .float (h x List.mem_cons_self)
  | flag on => exact .bool on
  | entry s => exact .text s

theorem Condition.writable (c : Condition ν) (h : ∀ x ∈ c.numbers, ReadsBack numeral x) :
    c.toDocument.Writable numeral := by
  cases c with
  | state name negated => exact .record (by simp [Writable.text, Writable.bool])
  | threshold stat bound atLeast =>
    have hbound : ReadsBack numeral bound := h bound List.mem_cons_self
    exact .record (by simp [Writable.text, Writable.bool, Writable.float hbound])
  | multiplier stat per limit =>
    simp only [numbers, List.forall_mem_cons, Option.mem_toList] at h
    have hlimit : (ofOption float limit).Writable numeral :=
      writable_ofOption fun x hx => .float (h.2 x hx)
    exact .record (by simp [Writable.text, Writable.float h.1, hlimit])

theorem Origin.writable (o : Origin) : (o.toDocument (ν := ν)).Writable numeral := by
  have hid : (ofOption (ν := ν) .text o.id).Writable numeral :=
    writable_ofOption fun s _ => .text s
  exact .record (by simp [Writable.text, hid])

theorem Tag.writable (t : Tag) : (t.toDocument (ν := ν)).Writable numeral := by
  cases t <;> exact .record (by simp [Writable.text])

theorem Modifier.writable (m : Modifier ν) (h : ∀ x ∈ m.numbers, ReadsBack numeral x) :
    m.toDocument.Writable numeral := by
  rw [numbers, List.forall_mem_append] at h
  have hflags {names : Vocabulary} (a : FlagSet names) :
      (a.toDocument (ν := ν)).Writable numeral := .text _
  have htag : (ofOption (ν := ν) Tag.toDocument m.tag).Writable numeral :=
    writable_ofOption fun t _ => t.writable
  exact .record (by simp [Writable.text, m.value.writable h.1, hflags, m.origin.writable,
    writable_ofOption_flatMap Condition.writable h.2, htag])

theorem FormRow.writable (r : FormRow ν) (h : ∀ x ∈ r.numbers, ReadsBack numeral x) :
    r.toDocument.Writable numeral := by
  simp only [numbers, List.forall_mem_cons, Option.mem_toList] at h
  have hkind : (ofOption (ν := ν) (fun kind => text kind.name) r.kind).Writable numeral :=
    writable_ofOption fun _ _ => .text _
  have hvalue : (ofOption float r.value).Writable numeral :=
    writable_ofOption fun x hx => .float (h.2 x hx)
  exact .record (by simp [Writable.text, Writable.bool, Writable.float h.1, hkind, hvalue,
    writable_names])

theorem StatRow.writable (r : StatRow) : (r.toDocument (ν := ν)).Writable numeral :=
  .record (by simp [Writable.text, writable_names])

theorem FlagRow.writable (r : FlagRow) : (r.toDocument (ν := ν)).Writable numeral :=
  .record (by simp [Writable.text, writable_names])

theorem ConditionRow.writable (r : ConditionRow ν)
    (h : ∀ x ∈ r.condition.numbers, ReadsBack numeral x) : r.toDocument.Writable numeral :=
  .record (by simp [Writable.text, r.condition.writable h])

theorem EffectRow.writable (r : EffectRow ν) (h : ∀ x ∈ r.numbers, ReadsBack numeral x) :
    r.toDocument.Writable numeral := by
  rw [numbers, List.forall_mem_append, List.forall_mem_cons] at h
  exact .record (by simp [Writable.text, r.value.writable h.1, Writable.float h.2.1,
    writable_names, writable_ofOption_flatMap Condition.writable h.2.2])

theorem KnownRow.writable (r : KnownRow ν)
    (h : ∀ x ∈ r.effects.flatMap EffectRow.numbers, ReadsBack numeral x) :
    r.toDocument.Writable numeral := by
  have heffects := writable_ofList_flatMap EffectRow.writable h
  exact .record (by simp [Writable.text, Writable.bool, heffects])

theorem ParserTables.writable (t : ParserTables ν) (h : ∀ x ∈ t.numbers, ReadsBack numeral x) :
    t.toDocument.Writable numeral := by
  rw [numbers, List.forall_mem_append, List.forall_mem_append] at h
  obtain ⟨⟨hforms, hconditions⟩, hknown⟩ := h
  have hstats : (ofList (ν := ν) StatRow.toDocument t.stats).Writable numeral :=
    writable_ofList fun r _ => r.writable
  have hflags : (ofList (ν := ν) FlagRow.toDocument t.flags).Writable numeral :=
    writable_ofList fun r _ => r.writable
  exact .record (by simp [writable_ofList_flatMap FormRow.writable hforms, hstats, hflags,
    writable_ofList_flatMap ConditionRow.writable hconditions,
    writable_ofList_flatMap KnownRow.writable hknown])

/-! ### Survival -/

/-- A modifier, or tables, whose numbers are finite and read back from their spellings, come back
from the JSON text as they were. -/
theorem json_roundTrip (numeral : ν → String) :
    (∀ m : Modifier ν, (∀ x ∈ m.numbers, ReadsBack numeral x) →
      (ofJson? (m.toDocument.toJson numeral)).bind Modifier.ofDocument? = some m) ∧
    (∀ t : ParserTables ν, (∀ x ∈ t.numbers, ReadsBack numeral x) →
      (ofJson? (t.toDocument.toJson numeral)).bind ParserTables.ofDocument? = some t) := by
  constructor
  · intro m hm
    rw [ofJson?_toJson (m.writable hm)]
    exact m.ofDocument?_toDocument
  · intro t ht
    rw [ofJson?_toJson (t.writable ht)]
    exact t.ofDocument?_toDocument

/-- The spellings of a tenth and of one. -/
def tenthOrOne (x : Float) : String :=
  if x == 0.1 then "0.1" else "1.0"

/-- A modifier with a bit that has no name, and tables with a value that is the text of a switch,
over doubles. -/
theorem json_roundTrip_double :
    let m : Modifier Float :=
      { stat := "Damage \"on\"\n Hit"
        kind := .increased
        value := .number 0.1
        flags := ⟨0x801⟩
        origin := { category := .item, id := some "Ring 1" }
        condition := some (.multiplier "PowerCharges" 1.0 none)
        tag := some (.label "") }
    let form : FormRow Float :=
      { id := "increased", pattern := "#% increased", kind := some .increased, scale := 0.1 }
    let effect : EffectRow Float :=
      { stat := "Mode", kind := .list, value := .entry "true", scale := 1.0, flags := ["ATTACK"] }
    let t : ParserTables Float :=
      { forms := [form]
        conditions := [{ phrase := "while leeching", condition := .state "Leeching" false }]
        known := [{ text := "true", effects := [effect] }] }
    (∀ x ∈ m.numbers, ReadsBack tenthOrOne x) ∧ (∀ x ∈ t.numbers, ReadsBack tenthOrOne x) ∧
      (ofJson? (m.toDocument.toJson tenthOrOne)).bind Modifier.ofDocument? = some m ∧
      (ofJson? (t.toDocument.toJson tenthOrOne)).bind ParserTables.ofDocument? = some t := by
  intro m form effect t
  have htenth : ReadsBack tenthOrOne 0.1 := ⟨by rfl, by rfl⟩
  have hone : ReadsBack tenthOrOne 1.0 := ⟨by rfl, by rfl⟩
  have hm : ∀ x ∈ m.numbers, ReadsBack tenthOrOne x := by
    change ∀ x ∈ [0.1, 1.0], ReadsBack tenthOrOne x
    simp [htenth, hone]
  have ht : ∀ x ∈ t.numbers, ReadsBack tenthOrOne x := by
    change ∀ x ∈ [0.1, 1.0], ReadsBack tenthOrOne x
    simp [htenth, hone]
  exact ⟨hm, ht, (json_roundTrip tenthOrOne).1 m hm, (json_roundTrip tenthOrOne).2 t ht⟩

end Loadout
