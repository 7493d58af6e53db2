import Std.Data.ExtTreeMap
import Loadout.Number.Scalar

/-!
# Documents

Builds, trees and parser tables are stored as JSON. A document is the tree that such
a text spells. A number keeps whether it was written as a whole number, since counts
and identifiers accept no other spelling. A value that follows the grammar and has no
content, such as a string with an unpaired surrogate or a number beyond all doubles,
is `unreadable`: it may stand in a field that nobody asks for, and nowhere else.

## Main definitions

* `Document`: the tree
* `Document.readable`: no unreadable part at any depth
* `Document.fields?`: the known fields of a structure
* `Fields.required?`, `Fields.orElse?`, `Fields.optional?`: one field
* decoders of the simple types

A structure is written as a record, whose unknown fields are ignored and whose known
fields stand once, or as a list of its fields in order, of which only the last may be
left out.
-/

namespace Loadout

/-- The tree that a JSON text spells. -/
inductive Document (ν : Type) where
  | null
  | bool (b : Bool)
  | int (n : Int)
  | float (x : ν)
  | text (s : String)
  | list (items : List (Document ν))
  | record (members : List (String × Document ν))
  | unreadable

namespace Document

variable {ν : Type}

instance : Inhabited (Document ν) := ⟨null⟩

mutual

/-- Whether every part of a document has content. -/
def readable : Document ν → Bool
  | unreadable => false
  | list items => listReadable items
  | record members => membersReadable members
  | _ => true

/-- Whether every part of every item has content. -/
def listReadable : List (Document ν) → Bool
  | [] => true
  | item :: rest => item.readable && listReadable rest

/-- Whether every part of every member has content. -/
def membersReadable : List (String × Document ν) → Bool
  | [] => true
  | (_, value) :: rest => value.readable && membersReadable rest

end

/-! ### Decoders of the simple types -/

/-- A truth value. -/
def toBool? : Document ν → Option Bool
  | bool b => some b
  | _ => none

/-- A text. -/
def toText? : Document ν → Option String
  | text s => some s
  | _ => none

/-- A number, however it was written. -/
def toNumber? [Scalar ν] : Document ν → Option ν
  | int n => some (Scalar.ofInt n)
  | float x => some x
  | _ => none

/-- A whole number of 32 bits without a sign. -/
def toCount? : Document ν → Option Nat
  | int n => if 0 ≤ n && n < Int.pow 2 32 then some n.toNat else none
  | _ => none

/-- A list of values of one type. -/
def toList? {α : Type} (item : Document ν → Option α) : Document ν → Option (List α)
  | list items => items.mapM item
  | _ => none

/-- A value that may be null. -/
def toOption? {α : Type} (value : Document ν → Option α) : Document ν → Option (Option α)
  | null => some none
  | d => (value d).map some

/-- A record with a value of one type under each key; of equal keys the last counts. -/
def toMap? {κ α : Type} [Ord κ] [Std.TransOrd κ] (key : String → Option κ)
    (value : Document ν → Option α) : Document ν → Option (Std.ExtTreeMap κ α)
  | record members => members.foldlM (fun map member => do
      return map.insert (← key member.1) (← value member.2)) ∅
  | _ => none

/-- A count as the key of a record: its decimal digits, without zeros in front. -/
def countKey? (key : String) : Option Nat :=
  let cs := key.toList
  let leadingZero := match cs with
    | '0' :: _ :: _ => true
    | _ => false
  if cs = [] || leadingZero || !cs.all (fun c => 48 ≤ c.toNat && c.toNat ≤ 57) then
    none
  else
    let n := cs.foldl (fun n c => 10 * n + (c.toNat - 48)) 0
    if n < Nat.pow 2 32 then some n else none

/-- A value among named ones: its name, or a record of the name with null. -/
def toName? {α : Type} (name : String → Option α) : Document ν → Option α
  | text s => name s
  | record [(s, null)] => name s
  | _ => none

end Document

/-! ### Structures -/

/-- The fields of a structure that a document gives, by name. -/
structure Fields (ν : Type) where
  found : List (String × Document ν)
  /-- Whether the document was a list, where a missing field is cut off and not left out. -/
  positional : Bool

namespace Document

variable {ν : Type}

/-- The known fields of a structure, in either form it can be written. -/
def fields? (names : List String) : Document ν → Option (Fields ν)
  | record members =>
    let known := members.filter fun member => names.contains member.1
    if (known.map (·.1)).Nodup then some ⟨known, false⟩ else none
  | list items =>
    if items.length ≤ names.length then some ⟨names.zip items, true⟩ else none
  | _ => none

end Document

namespace Fields

variable {ν α : Type}

/-- A field that the document must give. -/
def required? (f : Fields ν) (name : String) (decode : Document ν → Option α) : Option α :=
  (f.found.lookup name).bind decode

/-- A field that takes a default when the document does not give it. -/
def orElse? (f : Fields ν) (name : String) (default : α) (decode : Document ν → Option α) :
    Option α :=
  match f.found.lookup name with
  | some d => decode d
  | none => some default

/-- A field that may be null, or left out of a record, but not cut off a list. -/
def optional? (f : Fields ν) (name : String) (decode : Document ν → Option α) :
    Option (Option α) :=
  match f.found.lookup name with
  | some d => d.toOption? decode
  | none => if f.positional then none else some none

end Fields

/-! ### Encoders of the simple types -/

namespace Document

variable {ν : Type}

/-- A list of encoded values. -/
def ofList {α : Type} (item : α → Document ν) (values : List α) : Document ν :=
  list (values.map item)

/-- An encoded value, or null. -/
def ofOption {α : Type} (value : α → Document ν) : Option α → Document ν
  | none => null
  | some a => value a

/-- A count. -/
def ofCount (n : Nat) : Document ν :=
  int n

/-- A record with an encoded value under each key, in the order of the keys. -/
def ofMap {κ α : Type} [Ord κ] [Std.TransOrd κ] (key : κ → String) (value : α → Document ν)
    (map : Std.ExtTreeMap κ α) : Document ν :=
  record (map.toList.map fun entry => (key entry.1, value entry.2))

end Document

end Loadout
