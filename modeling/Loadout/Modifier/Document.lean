import Loadout.Document.Basic
import Loadout.Modifier.Basic

/-!
# Modifiers as documents

How modifiers and their parts are written and read. Writing gives every field;
reading accepts a modifier without the fields that have a default. A condition names
its kind in the field `type`, which may stand anywhere among its fields, and is
refused when any part of it is unreadable, since its kind is not known before all of
it has been read. The three kinds of value are told apart by their JSON types alone.

## Main definitions

* `Modifier.toDocument`, `Modifier.ofDocument?` and the same for each part
-/

namespace Loadout

variable {ν : Type}

/-- A flag set in its written form. -/
def FlagSet.toDocument {names : Vocabulary} (a : FlagSet names) : Document ν :=
  .text a.text

/-- Reads the written form of a flag set. -/
def FlagSet.ofDocument? {names : Vocabulary} (d : Document ν) : Option (FlagSet names) :=
  d.toText?.bind FlagSet.ofText?

namespace Origin

/-- An origin as a structure of category and identifier. -/
def toDocument (o : Origin) : Document ν :=
  .record [("category", .text o.category.name), ("id", .ofOption .text o.id)]

/-- Reads an origin; the identifier may be left out of a record. -/
def ofDocument? (d : Document ν) : Option Origin := do
  let f ← d.fields? ["category", "id"]
  return {
    category := ← f.required? "category" (Document.toName? Category.ofName?)
    id := ← f.optional? "id" Document.toText? }

end Origin

namespace Value

/-- A value as the JSON value of its own type. -/
def toDocument : Value ν → Document ν
  | number x => .float x
  | flag on => .bool on
  | entry text => .text text

/-- Reads a value by its JSON type. -/
def ofDocument? [Scalar ν] : Document ν → Option (Value ν)
  | .int n => some (number (Scalar.ofInt n))
  | .float x => some (number x)
  | .bool on => some (flag on)
  | .text text => some (entry text)
  | _ => none

end Value

namespace Condition

/-- A condition as a structure with its kind in `type`. -/
def toDocument : Condition ν → Document ν
  | state name negated =>
    .record [("type", .text "flag"), ("var", .text name), ("negated", .bool negated)]
  | threshold stat bound atLeast =>
    .record [("type", .text "stat_threshold"), ("stat", .text stat), ("threshold", .float bound),
      ("at_least", .bool atLeast)]
  | multiplier stat per limit =>
    .record [("type", .text "multiplier"), ("stat", .text stat), ("per", .float per),
      ("limit", .ofOption .float limit)]

/-- Reads the fields of a condition of the kind that `tag` names. -/
def ofFields? [Scalar ν] (tag : String) (d : Document ν) : Option (Condition ν) :=
  match tag with
  | "flag" => do
    let f ← d.fields? ["var", "negated"]
    return state (← f.required? "var" Document.toText?)
      (← f.orElse? "negated" false Document.toBool?)
  | "stat_threshold" => do
    let f ← d.fields? ["stat", "threshold", "at_least"]
    return threshold (← f.required? "stat" Document.toText?)
      (← f.required? "threshold" Document.toNumber?)
      (← f.orElse? "at_least" true Document.toBool?)
  | "multiplier" => do
    let f ← d.fields? ["stat", "per", "limit"]
    return multiplier (← f.required? "stat" Document.toText?)
      (← f.orElse? "per" Scalar.one Document.toNumber?)
      (← f.orElse? "limit" none (Document.toOption? Document.toNumber?))
  | _ => none

/-- Reads a condition: the kind is the field `type`, or the first item of a list. -/
def ofDocument? [Scalar ν] (d : Document ν) : Option (Condition ν) :=
  if !d.readable then
    none
  else
    match d with
    | .record members =>
      match members.filter fun member => member.1 == "type" with
      | [(_, tag)] => do
        let tag ← tag.toText?
        ofFields? tag (.record (members.filter fun member => member.1 != "type"))
      | _ => none
    | .list (.text tag :: rest) => ofFields? tag (.list rest)
    | _ => none

end Condition

namespace Tag

/-- A tag as a record of its kind and its text. -/
def toDocument : Tag → Document ν
  | slot name => .record [("SlotName", .text name)]
  | label text => .record [("Label", .text text)]

/-- Reads a tag. -/
def ofDocument? : Document ν → Option Tag
  | .record [("SlotName", d)] => d.toText?.map slot
  | .record [("Label", d)] => d.toText?.map label
  | _ => none

end Tag

namespace Modifier

/-- A modifier with all its fields. -/
def toDocument (m : Modifier ν) : Document ν :=
  .record [
    ("name", .text m.stat),
    ("kind", .text m.kind.name),
    ("value", m.value.toDocument),
    ("flags", m.flags.toDocument),
    ("keyword_flags", m.keywords.toDocument),
    ("source", m.origin.toDocument),
    ("condition", .ofOption Condition.toDocument m.condition),
    ("tag", .ofOption Tag.toDocument m.tag)]

/-- Reads a modifier: all but name, kind and value may be left out. -/
def ofDocument? [Scalar ν] (d : Document ν) : Option (Modifier ν) := do
  let f ← d.fields? ["name", "kind", "value", "flags", "keyword_flags", "source", "condition",
    "tag"]
  return {
    stat := ← f.required? "name" Document.toText?
    kind := ← f.required? "kind" (Document.toName? Kind.ofName?)
    value := ← f.required? "value" Value.ofDocument?
    flags := ← f.orElse? "flags" .empty FlagSet.ofDocument?
    keywords := ← f.orElse? "keyword_flags" .empty FlagSet.ofDocument?
    origin := ← f.orElse? "source" .custom Origin.ofDocument?
    condition := ← f.orElse? "condition" none (Document.toOption? Condition.ofDocument?)
    tag := ← f.orElse? "tag" none (Document.toOption? Tag.ofDocument?) }

end Modifier

end Loadout
