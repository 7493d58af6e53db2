import Loadout.Line.Tables
import Loadout.Proofs.Document.Decoders
import Loadout.Proofs.Document.Flags

/-!
# Modifiers and tables come back from their documents

Every encoder of a modifier, of one of its parts, or of a row of the parser tables is
inverted by the decoder of the same type. The encoders write every field, so none of the
defaults of the decoders is ever taken, and the kinds of value and of condition cannot be
mistaken for one another: a value is told by its JSON type alone, whatever its text is, and
a condition by the field `type`, which none of its own fields is called.

## Main results

* `Modifier.ofDocument?_toDocument`, `ParserTables.ofDocument?_toDocument`, and the same for
  each part
-/

namespace Loadout

open Document

variable {ν : Type}

/-! ### Parts of modifiers -/

@[simp] theorem Origin.ofDocument?_toDocument (o : Origin) :
    Origin.ofDocument? (o.toDocument : Document ν) = some o := by
  have hid : (ofOption (ν := ν) .text o.id).toOption? toText? = some o.id := by
    cases o.id <;> rfl
  rw [ofDocument?, toDocument, fields?_record]
  case hnames => rfl
  case hnodup => decide
  simp [Fields.required?, Fields.optional?, List.lookup_cons, Category.ofName?_name, hid]

/-- A flag set comes back with all its bits, named or not. -/
theorem FlagSet.ofDocument?_toDocument {names : Vocabulary} (hnames : names.Legible)
    (a : FlagSet names) : FlagSet.ofDocument? (a.toDocument : Document ν) = some a :=
  ofText?_text hnames a

@[simp] theorem Tag.ofDocument?_toDocument (t : Tag) :
    Tag.ofDocument? (t.toDocument : Document ν) = some t := by
  cases t <;> rfl

@[simp] theorem namesOfDocument?_namesToDocument (names : List String) :
    namesOfDocument? (namesToDocument names : Document ν) = some names := by
  rw [namesOfDocument?, namesToDocument, toList?_ofList toText?_text]

section

variable [Scalar ν]

@[simp] theorem Value.ofDocument?_toDocument (v : Value ν) :
    Value.ofDocument? v.toDocument = some v := by
  cases v <;> rfl

theorem Condition.ofDocument?_toDocument (c : Condition ν) :
    Condition.ofDocument? c.toDocument = some c := by
  cases c with
  | state name negated => rfl
  | threshold stat bound atLeast => rfl
  | multiplier stat per limit => cases limit <;> rfl

@[simp] theorem Condition.toOption?_ofOption (c : Option (Condition ν)) :
    (ofOption toDocument c).toOption? Condition.ofDocument? = some c :=
  Document.toOption?_ofOption ofDocument?_toDocument (fun c => by cases c <;> simp [toDocument]) c

/-! ### Modifiers -/

theorem Modifier.ofDocument?_toDocument (m : Modifier ν) :
    Modifier.ofDocument? m.toDocument = some m := by
  have htag : (ofOption (ν := ν) Tag.toDocument m.tag).toOption? Tag.ofDocument? = some m.tag :=
    toOption?_ofOption Tag.ofDocument?_toDocument (fun t => by cases t <;> simp [Tag.toDocument])
      m.tag
  rw [ofDocument?, toDocument, fields?_record]
  case hnames => rfl
  case hnodup => decide
  simp [Fields.required?, Fields.orElse?, List.lookup_cons, Kind.ofName?_name,
    FlagSet.ofDocument?_toDocument damageFlagNames_legible,
    FlagSet.ofDocument?_toDocument keywordFlagNames_legible, htag]

end

/-! ### Rows of tables -/

theorem StatRow.ofDocument?_toDocument (r : StatRow) :
    StatRow.ofDocument? (r.toDocument : Document ν) = some r := by
  rw [ofDocument?, toDocument, fields?_record]
  case hnames => rfl
  case hnodup => decide
  simp [Fields.required?, Fields.orElse?, List.lookup_cons]

theorem FlagRow.ofDocument?_toDocument (r : FlagRow) :
    FlagRow.ofDocument? (r.toDocument : Document ν) = some r := by
  rw [ofDocument?, toDocument, fields?_record]
  case hnames => rfl
  case hnodup => decide
  simp [Fields.required?, Fields.orElse?, List.lookup_cons]

variable [Scalar ν]

theorem FormRow.ofDocument?_toDocument (r : FormRow ν) :
    FormRow.ofDocument? r.toDocument = some r := by
  have hkind : (ofOption (ν := ν) (fun kind => text kind.name) r.kind).toOption?
      (toName? Kind.ofName?) = some r.kind :=
    toOption?_ofOption Kind.ofName?_name (fun _ => by simp) r.kind
  have hvalue : (ofOption float r.value).toOption? toNumber? = some r.value :=
    toOption?_ofOption toNumber?_float (fun _ => by simp) r.value
  rw [ofDocument?, toDocument, fields?_record]
  case hnames => rfl
  case hnodup => decide
  simp [Fields.required?, Fields.orElse?, List.lookup_cons, hkind, hvalue]

theorem ConditionRow.ofDocument?_toDocument (r : ConditionRow ν) :
    ConditionRow.ofDocument? r.toDocument = some r := by
  rw [ofDocument?, toDocument, fields?_record]
  case hnames => rfl
  case hnodup => decide
  simp [Fields.required?, List.lookup_cons, Condition.ofDocument?_toDocument]

theorem EffectRow.ofDocument?_toDocument (r : EffectRow ν) :
    EffectRow.ofDocument? r.toDocument = some r := by
  rw [ofDocument?, toDocument, fields?_record]
  case hnames => rfl
  case hnodup => decide
  simp [Fields.required?, Fields.orElse?, List.lookup_cons, Kind.ofName?_name]

theorem KnownRow.ofDocument?_toDocument (r : KnownRow ν) :
    KnownRow.ofDocument? r.toDocument = some r := by
  rw [ofDocument?, toDocument, fields?_record]
  case hnames => rfl
  case hnodup => decide
  simp [Fields.required?, Fields.orElse?, List.lookup_cons,
    toList?_ofList EffectRow.ofDocument?_toDocument]

/-! ### Tables -/

theorem ParserTables.ofDocument?_toDocument (t : ParserTables ν) :
    ParserTables.ofDocument? t.toDocument = some t := by
  rw [ofDocument?, toDocument, fields?_record]
  case hnames => rfl
  case hnodup => decide
  simp [Fields.orElse?, List.lookup_cons, toList?_ofList FormRow.ofDocument?_toDocument,
    toList?_ofList StatRow.ofDocument?_toDocument, toList?_ofList FlagRow.ofDocument?_toDocument,
    toList?_ofList ConditionRow.ofDocument?_toDocument,
    toList?_ofList KnownRow.ofDocument?_toDocument]

end Loadout
