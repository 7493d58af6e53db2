import Loadout.Modifier.Document

/-!
# Parser tables

Lines are read by data: form patterns, the phrases that name stats, flags and
conditions, and lines that are known as they stand. In a form pattern `#` stands for a
number, the group `stat` for the words that name the stat, and any other named group
can be used in the names of the form's outputs.

## Main definitions

* `FormRow`, `StatRow`, `FlagRow`, `ConditionRow`, `KnownRow`: the rows
* `ParserTables`: all tables
* `ParserTables.toDocument`, `ParserTables.ofDocument?`: their written form
-/

namespace Loadout

/-- A form: a pattern over whole lines and what it produces. -/
structure FormRow (ν : Type) where
  id : String
  pattern : String
  kind : Option Kind := none
  /-- What every number of the pattern is multiplied by. -/
  scale : ν
  /-- The names of the produced stats, one modifier each; none means the stat of the line. -/
  outputs : List String := []
  /-- The number of a line without any. -/
  value : Option ν := none
  displayOnly : Bool := false
  /-- Whether the modifiers belong to the item slot of the line. -/
  isLocal : Bool := false
  deriving BEq

/-- A phrase that names a stat, with the flags it implies. -/
structure StatRow where
  phrase : String
  stat : String
  flags : List String := []
  keywords : List String := []
  deriving DecidableEq

/-- A phrase that restricts a modifier to flags or keywords. -/
structure FlagRow where
  phrase : String
  flags : List String := []
  keywords : List String := []
  deriving DecidableEq

/-- A phrase that names a condition. A number in the phrase is the bound or step. -/
structure ConditionRow (ν : Type) where
  phrase : String
  condition : Condition ν
  deriving BEq

/-- A modifier of a known line. A number read from the line takes the place of its own, after
scaling. -/
structure EffectRow (ν : Type) where
  stat : String
  kind : Kind
  value : Value ν
  scale : ν
  flags : List String := []
  keywords : List String := []
  condition : Option (Condition ν) := none
  deriving BEq

/-- A line that is known as it stands, up to numbers in the ranges marked `(a-b)`. -/
structure KnownRow (ν : Type) where
  text : String
  effects : List (EffectRow ν) := []
  isLocal : Bool := false
  displayOnly : Bool := false
  deriving BEq

/-- Everything that lines are read by. -/
structure ParserTables (ν : Type) where
  forms : List (FormRow ν) := []
  stats : List StatRow := []
  flags : List FlagRow := []
  conditions : List (ConditionRow ν) := []
  known : List (KnownRow ν) := []
  deriving BEq

variable {ν : Type}

/-! ### Written form -/

/-- A list of names. -/
def namesToDocument (names : List String) : Document ν :=
  .ofList .text names

/-- Reads a list of names. -/
def namesOfDocument? (d : Document ν) : Option (List String) :=
  d.toList? Document.toText?

namespace FormRow

/-- A form with all its fields. -/
def toDocument (r : FormRow ν) : Document ν :=
  .record [
    ("id", .text r.id),
    ("pattern", .text r.pattern),
    ("kind", .ofOption (fun kind => .text kind.name) r.kind),
    ("scale", .float r.scale),
    ("outputs", namesToDocument r.outputs),
    ("value", .ofOption .float r.value),
    ("display_only", .bool r.displayOnly),
    ("local", .bool r.isLocal)]

/-- Reads a form; all but its name and pattern may be left out. -/
def ofDocument? [Scalar ν] (d : Document ν) : Option (FormRow ν) := do
  let f ← d.fields? ["id", "pattern", "kind", "scale", "outputs", "value", "display_only", "local"]
  return {
    id := ← f.required? "id" Document.toText?
    pattern := ← f.required? "pattern" Document.toText?
    kind := ← f.orElse? "kind" none (Document.toOption? (Document.toName? Kind.ofName?))
    scale := ← f.orElse? "scale" Scalar.one Document.toNumber?
    outputs := ← f.orElse? "outputs" [] namesOfDocument?
    value := ← f.orElse? "value" none (Document.toOption? Document.toNumber?)
    displayOnly := ← f.orElse? "display_only" false Document.toBool?
    isLocal := ← f.orElse? "local" false Document.toBool? }

end FormRow

namespace StatRow

/-- A stat phrase with all its fields. -/
def toDocument (r : StatRow) : Document ν :=
  .record [
    ("phrase", .text r.phrase),
    ("stat", .text r.stat),
    ("flags", namesToDocument r.flags),
    ("keyword_flags", namesToDocument r.keywords)]

/-- Reads a stat phrase; its flags may be left out. -/
def ofDocument? (d : Document ν) : Option StatRow := do
  let f ← d.fields? ["phrase", "stat", "flags", "keyword_flags"]
  return {
    phrase := ← f.required? "phrase" Document.toText?
    stat := ← f.required? "stat" Document.toText?
    flags := ← f.orElse? "flags" [] namesOfDocument?
    keywords := ← f.orElse? "keyword_flags" [] namesOfDocument? }

end StatRow

namespace FlagRow

/-- A flag phrase with all its fields. -/
def toDocument (r : FlagRow) : Document ν :=
  .record [
    ("phrase", .text r.phrase),
    ("flags", namesToDocument r.flags),
    ("keyword_flags", namesToDocument r.keywords)]

/-- Reads a flag phrase; its flags may be left out. -/
def ofDocument? (d : Document ν) : Option FlagRow := do
  let f ← d.fields? ["phrase", "flags", "keyword_flags"]
  return {
    phrase := ← f.required? "phrase" Document.toText?
    flags := ← f.orElse? "flags" [] namesOfDocument?
    keywords := ← f.orElse? "keyword_flags" [] namesOfDocument? }

end FlagRow

namespace ConditionRow

/-- A condition phrase with all its fields. -/
def toDocument (r : ConditionRow ν) : Document ν :=
  .record [("phrase", .text r.phrase), ("condition", r.condition.toDocument)]

/-- Reads a condition phrase. -/
def ofDocument? [Scalar ν] (d : Document ν) : Option (ConditionRow ν) := do
  let f ← d.fields? ["phrase", "condition"]
  return {
    phrase := ← f.required? "phrase" Document.toText?
    condition := ← f.required? "condition" Condition.ofDocument? }

end ConditionRow

namespace EffectRow

/-- An effect with all its fields. -/
def toDocument (r : EffectRow ν) : Document ν :=
  .record [
    ("name", .text r.stat),
    ("kind", .text r.kind.name),
    ("value", r.value.toDocument),
    ("scale", .float r.scale),
    ("flags", namesToDocument r.flags),
    ("keyword_flags", namesToDocument r.keywords),
    ("condition", .ofOption Condition.toDocument r.condition)]

/-- Reads an effect; all but name, kind and value may be left out. -/
def ofDocument? [Scalar ν] (d : Document ν) : Option (EffectRow ν) := do
  let f ← d.fields? ["name", "kind", "value", "scale", "flags", "keyword_flags", "condition"]
  return {
    stat := ← f.required? "name" Document.toText?
    kind := ← f.required? "kind" (Document.toName? Kind.ofName?)
    value := ← f.required? "value" Value.ofDocument?
    scale := ← f.orElse? "scale" Scalar.one Document.toNumber?
    flags := ← f.orElse? "flags" [] namesOfDocument?
    keywords := ← f.orElse? "keyword_flags" [] namesOfDocument?
    condition := ← f.orElse? "condition" none (Document.toOption? Condition.ofDocument?) }

end EffectRow

namespace KnownRow

/-- A known line with all its fields. -/
def toDocument (r : KnownRow ν) : Document ν :=
  .record [
    ("text", .text r.text),
    ("effects", .ofList EffectRow.toDocument r.effects),
    ("local", .bool r.isLocal),
    ("display_only", .bool r.displayOnly)]

/-- Reads a known line; all but its text may be left out. -/
def ofDocument? [Scalar ν] (d : Document ν) : Option (KnownRow ν) := do
  let f ← d.fields? ["text", "effects", "local", "display_only"]
  return {
    text := ← f.required? "text" Document.toText?
    effects := ← f.orElse? "effects" [] (Document.toList? EffectRow.ofDocument?)
    isLocal := ← f.orElse? "local" false Document.toBool?
    displayOnly := ← f.orElse? "display_only" false Document.toBool? }

end KnownRow

namespace ParserTables

/-- Tables with all their fields. -/
def toDocument (t : ParserTables ν) : Document ν :=
  .record [
    ("forms", .ofList FormRow.toDocument t.forms),
    ("stats", .ofList StatRow.toDocument t.stats),
    ("flags", .ofList FlagRow.toDocument t.flags),
    ("conditions", .ofList ConditionRow.toDocument t.conditions),
    ("cache", .ofList KnownRow.toDocument t.known)]

/-- Reads tables; any of them may be left out. -/
def ofDocument? [Scalar ν] (d : Document ν) : Option (ParserTables ν) := do
  let f ← d.fields? ["forms", "stats", "flags", "conditions", "cache"]
  return {
    forms := ← f.orElse? "forms" [] (Document.toList? FormRow.ofDocument?)
    stats := ← f.orElse? "stats" [] (Document.toList? StatRow.ofDocument?)
    flags := ← f.orElse? "flags" [] (Document.toList? FlagRow.ofDocument?)
    conditions := ← f.orElse? "conditions" [] (Document.toList? ConditionRow.ofDocument?)
    known := ← f.orElse? "cache" [] (Document.toList? KnownRow.ofDocument?) }

end ParserTables

end Loadout
