import Loadout.Text.Quoted

/-!
# Faults of parser tables

Reading lines and resolving stats never fail. Loading tables can: the file cannot be
read, the document has another shape, a pattern does not read, a flag has no such name,
or a condition takes another number of placeholders than its kind allows.

## Main definitions

* `Fault`: the causes
* `Fault.message`: the text of a fault
-/

namespace Loadout

/-- Why tables cannot be used. -/
inductive Fault where
  /-- The file could not be read. -/
  | unreadable (path reason : String)
  /-- The document does not have the shape of parser tables. -/
  | malformed (reason : String)
  /-- A pattern does not read. -/
  | invalidPattern (pattern reason : String)
  /-- A flag or keyword has no such name. -/
  | unknownFlag (name : String)
  /-- A condition phrase does not fit its condition. -/
  | invalidCondition (phrase reason : String)
  deriving DecidableEq, Repr

namespace Fault

/-- The text of a fault. -/
def message : Fault → String
  | unreadable path reason => "Failed to read parser tables from " ++ path ++ ": " ++ reason
  | malformed reason => "Malformed parser tables: " ++ reason
  | invalidPattern pattern reason =>
    "Invalid pattern " ++ Text.quoted pattern ++ ": " ++ reason
  | unknownFlag name => "Unknown flag name in parser tables: " ++ name
  | invalidCondition phrase reason =>
    "Invalid condition entry " ++ Text.quoted phrase ++ ": " ++ reason

/-- A form that produces modifiers without saying of which kind. -/
def withoutKind (id : String) : Fault :=
  malformed ("form " ++ Text.quoted id ++ " has no kind")

/-- Why a range is refused whose bounds are not numerals. -/
def unreadableBounds : String :=
  "unreadable range bounds"

/-- A condition phrase with a placeholder too many. -/
def unexpectedPlaceholder (phrase : String) : Fault :=
  invalidCondition phrase "unexpected # placeholder"

end Fault

end Loadout
