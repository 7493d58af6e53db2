import Loadout.Proofs.Document.Decoders
import Loadout.Proofs.Document.Entries

/-!
# Documents with members left out

A document may be stored without some of its members: fields of a structure that are to take
their defaults, or entries of a map. What is left out is told by the steps that lead to it
from the top of the document, so that one choice says which members are missing at every
level. Items of a list keep their places and are never left out, and what is no record and
no list has nothing to leave out.

The lemmas follow the encoders. Of an encoded structure the fields that are left are found as
they were and each other field takes its default; of an encoded map the entries that are left
are read in their order; an encoded list keeps its length. In each case what is left out of
the part below is what the choice says within that part.

## Main definitions

* `Document.Step`, `Omission`: which members are left out, at every level
* `Omission.keep?`, `Omission.pick`: an entry that may be missing, a field with its default
* `Omission.items`, `Omission.pairs`, `Omission.entries`: what is left of the values of a list, of
  a list of entries and of a map
* `Document.without`: the document that is left

## Main results

* `Fields.orElse?_without`: a field of an encoded structure of which some fields are left out
* `Document.toList?_without`, `Document.toMap?_without`: lists and maps
* `Document.without_nothing`: nothing is left out of a document
* `Document.Writable.without`: what can be written can be written with members left out
-/

namespace Loadout

/-- A step down a document: into the member of a name, or into the item at a place. -/
inductive Document.Step where
  | member (name : String)
  | item (place : Nat)
  deriving DecidableEq

/-- Which members of a document are left out, each told by the steps that lead to it. -/
abbrev Omission := List Document.Step → Bool

namespace Omission

/-- Nothing is left out. -/
def nothing : Omission := fun _ => false

/-- What is left out below a step. -/
def within (o : Omission) (step : Document.Step) : Omission := fun steps => o (step :: steps)

@[simp] theorem within_nothing (step : Document.Step) : nothing.within step = nothing := rfl

section

variable {α : Type}

/-- The value of a member, unless the member is left out. -/
def keep? (o : Omission) (name : String) (value : α) : Option α :=
  if o [.member name] then none else some value

/-- The value of a field: its default when the field is left out. -/
def pick (o : Omission) (name : String) (default value : α) : α :=
  (o.keep? name value).getD default

@[simp] theorem keep?_nothing (name : String) (value : α) :
    nothing.keep? name value = some value := rfl

/-- The items of a list, each with what is left of it. -/
def items (o : Omission) (change : Omission → α → α) (values : List α) : List α :=
  values.mapIdx fun place => change (o.within (.item place))

/-- The entries of a list that are left, each with what is left of it. -/
def pairs {κ : Type} (o : Omission) (key : κ → String) (change : Omission → α → α)
    (entries : List (κ × α)) : List (κ × α) :=
  entries.filterMap fun entry =>
    (o.keep? (key entry.1) (change (o.within (.member (key entry.1))) entry.2)).map (entry.1, ·)

/-- The entries of a map that are left, each with what is left of it. -/
def entries {κ : Type} [Ord κ] [Std.TransOrd κ] (o : Omission) (key : κ → String)
    (change : Omission → α → α) (map : Std.ExtTreeMap κ α) : Std.ExtTreeMap κ α :=
  map.filterMap fun k a => o.keep? (key k) (change (o.within (.member (key k))) a)

theorem toList_entries {κ : Type} [Ord κ] [Std.TransOrd κ] (o : Omission) (key : κ → String)
    (change : Omission → α → α) (map : Std.ExtTreeMap κ α) :
    (o.entries key change map).toList = o.pairs key change map.toList :=
  Std.ExtTreeMap.toList_filterMap

theorem pick_some (o : Omission) (name : String) (default value : α) :
    o.pick name (some default) (some value) = some (o.pick name default value) := by
  rw [pick, pick, keep?, keep?]
  cases o [.member name] <;> rfl

@[simp] theorem pick_nothing (name : String) (default value : α) :
    nothing.pick name default value = value := rfl

theorem items_nothing {change : Omission → α → α} (h : ∀ a, change nothing a = a)
    (values : List α) : nothing.items change values = values := by
  induction values with
  | nil => rfl
  | cons a values ih =>
    rw [items, List.mapIdx_cons, within_nothing, h]
    exact congrArg (a :: ·) ih

theorem entries_nothing {κ : Type} [Ord κ] [Std.TransOrd κ] [Std.LawfulEqOrd κ]
    {change : Omission → α → α} (h : ∀ a, change nothing a = a) (key : κ → String)
    (map : Std.ExtTreeMap κ α) : nothing.entries key change map = map :=
  Std.ExtTreeMap.ext_getElem? fun {k} => by
    simp [entries, h]

end

end Omission

namespace Document

variable {ν : Type}

mutual

/-- The document that is left when members are left out of it. -/
def without (o : Omission) : Document ν → Document ν
  | null => null
  | bool b => bool b
  | int n => int n
  | float x => float x
  | text s => text s
  | list items => list (itemsWithout o 0 items)
  | record members => record (membersWithout o members)
  | unreadable => unreadable

/-- The items of a list from a place on, each with what is left of it. -/
def itemsWithout (o : Omission) (place : Nat) : List (Document ν) → List (Document ν)
  | [] => []
  | item :: rest =>
    item.without (o.within (.item place)) :: itemsWithout o (place + 1) rest

/-- The members that are left, each with what is left of it. -/
def membersWithout (o : Omission) : List (String × Document ν) → List (String × Document ν)
  | [] => []
  | (name, value) :: rest =>
    if o [.member name] then membersWithout o rest
    else (name, value.without (o.within (.member name))) :: membersWithout o rest

end

variable {o : Omission}

@[simp] theorem without_bool (b : Bool) : (bool b : Document ν).without o = bool b := rfl

@[simp] theorem without_float (x : ν) : (float x).without o = float x := rfl

@[simp] theorem without_text (s : String) : (text s : Document ν).without o = text s := rfl

@[simp] theorem without_ofCount (n : Nat) : (ofCount n : Document ν).without o = ofCount n := rfl

/-! ### Fields -/

theorem map_fst_membersWithout (o : Omission) (members : List (String × Document ν)) :
    (membersWithout o members).map (·.1) =
      (members.map (·.1)).filter fun name => !o [.member name] := by
  induction members with
  | nil => rfl
  | cons member members ih =>
    rw [membersWithout, List.map_cons, List.filter_cons]
    cases o [.member member.1] <;> simp [ih]

/-- A record of fields of a structure gives those that are left. -/
theorem fields?_without {members : List (String × Document ν)} {names : List String}
    (hnames : members.map (·.1) = names) (hnodup : names.Nodup) :
    ((record members).without o).fields? names = some ⟨membersWithout o members, false⟩ := by
  have hleft := map_fst_membersWithout o members
  rw [hnames] at hleft
  have hknown : ((membersWithout o members).filter fun member => names.contains member.1) =
      membersWithout o members := by
    rw [List.filter_eq_self]
    intro member hmember
    have hname := List.mem_map_of_mem (f := (·.1)) hmember
    rw [hleft, List.mem_filter] at hname
    exact List.contains_iff_mem.2 hname.1
  rw [without, fields?]
  simp only [hknown, hleft]
  exact if_pos (hnodup.filter _)

theorem lookup_membersWithout (o : Omission) (members : List (String × Document ν))
    (name : String) :
    (membersWithout o members).lookup name =
      (members.lookup name).bind fun d => o.keep? name (d.without (o.within (.member name))) := by
  induction members with
  | nil => rfl
  | cons member members ih =>
    obtain ⟨first, d⟩ := member
    rw [membersWithout, List.lookup_cons]
    by_cases hname : name = first
    · subst hname
      cases hgone : o [.member name]
      case false => simp [Omission.keep?, hgone]
      case true => simp [Omission.keep?, hgone, ih]
    · rw [beq_eq_false_iff_ne.2 hname]
      cases o [.member first]
      case false => simpa [List.lookup_cons, beq_eq_false_iff_ne.2 hname] using ih
      case true => exact ih

end Document

/-- A field of an encoded structure takes its default when it is left out, and otherwise what
is left of its document is decoded. -/
theorem Fields.orElse?_without {ν α : Type} (o : Omission) (members : List (String × Document ν))
    (name : String) (default : α) (decode : Document ν → Option α) :
    Fields.orElse? ⟨Document.membersWithout o members, false⟩ name default decode =
      match members.lookup name with
      | some d => o.pick name (some default) (decode (d.without (o.within (.member name))))
      | none => some default := by
  rw [Fields.orElse?, Document.lookup_membersWithout]
  cases members.lookup name with
  | none => rfl
  | some d =>
    simp only [Option.bind_some, Omission.pick, Omission.keep?]
    cases o [.member name] <;> rfl

namespace Document

variable {ν : Type} {o : Omission}

/-! ### Lists and optional values -/

section

variable {α : Type} {encode : α → Document ν} {decode : Document ν → Option α}

theorem without_ofList (h : ∀ a o, (encode a).without o = encode a) (values : List α) :
    (ofList encode values).without o = ofList encode values := by
  have hitems (place : Nat) : itemsWithout o place (values.map encode) = values.map encode := by
    induction values generalizing place with
    | nil => rfl
    | cons a values ih => rw [List.map_cons, itemsWithout, h, ih]
  rw [ofList, without, hitems]

theorem without_ofOption (h : ∀ a o, (encode a).without o = encode a) (value : Option α) :
    (ofOption encode value).without o = ofOption encode value := by
  cases value with
  | none => rfl
  | some a => exact h a o

variable {change : Omission → α → α}

/-- A list of encoded values is read item by item, whatever is left out of the items. -/
theorem toList?_without {values : List α}
    (h : ∀ a ∈ values, ∀ o, decode ((encode a).without o) = some (change o a)) :
    ((ofList encode values).without o).toList? decode = some (o.items change values) := by
  have hitems (start : Nat) : (itemsWithout o start (values.map encode)).mapM decode =
      some (values.mapIdx fun place => change (o.within (.item (start + place)))) := by
    induction values generalizing start with
    | nil => rfl
    | cons a values ih =>
      rw [List.forall_mem_cons] at h
      simp [itemsWithout, h.1, ih h.2, List.mapIdx_cons, Nat.add_assoc, Nat.add_comm 1]
  rw [ofList, without, toList?, hitems 0]
  simp [Omission.items]

/-! ### Maps -/

variable {κ : Type} [Ord κ] [Std.TransOrd κ] {key : κ → String} {keyOf : String → Option κ}

theorem toMap?_without_record {entries : List (κ × α)}
    (hkey : ∀ entry ∈ entries, keyOf (key entry.1) = some entry.1)
    (h : ∀ entry ∈ entries, ∀ o, decode ((encode entry.2).without o) = some (change o entry.2)) :
    ((record (entries.map fun entry => (key entry.1, encode entry.2))).without o).toMap? keyOf
        decode =
      some (.ofList (o.pairs key change entries)) := by
  rw [without, toMap?, Std.ExtTreeMap.ofList_eq_foldl]
  generalize (∅ : Std.ExtTreeMap κ α) = start
  induction entries generalizing start with
  | nil => rfl
  | cons entry entries ih =>
    rw [List.forall_mem_cons] at hkey h
    rw [List.map_cons, membersWithout, Omission.pairs, List.filterMap_cons, Omission.keep?]
    cases o [.member (key entry.1)]
    case true => exact ih hkey.2 h.2 start
    case false =>
      simp only [Bool.false_eq_true, if_false, List.foldlM_cons, hkey.1, h.1]
      exact ih hkey.2 h.2 _

/-- An encoded map is read as the entries that are left. -/
theorem toMap?_without [Std.LawfulEqOrd κ] [BEq κ] [LawfulBEq κ] {map : Std.ExtTreeMap κ α}
    (hkey : ∀ k ∈ map.keys, keyOf (key k) = some k)
    (h : ∀ entry ∈ map.toList, ∀ o,
      decode ((encode entry.2).without o) = some (change o entry.2)) :
    ((ofMap key encode map).without o).toMap? keyOf decode = some (o.entries key change map) := by
  rw [← Std.ExtTreeMap.map_fst_toList_eq_keys, List.forall_mem_map] at hkey
  rw [ofMap, toMap?_without_record hkey h, ← Omission.toList_entries, ofList_toList]

end

/-! ### All members -/

mutual

/-- A document of which nothing is left out is the document. -/
theorem without_nothing : (d : Document ν) → d.without .nothing = d
  | null => rfl
  | bool _ => rfl
  | int _ => rfl
  | float _ => rfl
  | text _ => rfl
  | list items => by rw [without, itemsWithout_nothing 0 items]
  | record members => by rw [without, membersWithout_nothing members]
  | unreadable => rfl

theorem itemsWithout_nothing (place : Nat) :
    (items : List (Document ν)) → itemsWithout .nothing place items = items
  | [] => rfl
  | item :: rest => by
    rw [itemsWithout, Omission.within_nothing, without_nothing item,
      itemsWithout_nothing (place + 1) rest]

theorem membersWithout_nothing :
    (members : List (String × Document ν)) → membersWithout .nothing members = members
  | [] => rfl
  | (name, value) :: rest => by
    rw [membersWithout, Omission.within_nothing, without_nothing value,
      membersWithout_nothing rest]
    rfl

end

/-! ### Writing -/

theorem exists_of_mem_itemsWithout {place : Nat} {items : List (Document ν)} {d : Document ν}
    (hd : d ∈ itemsWithout o place items) : ∃ item ∈ items, ∃ o, d = item.without o := by
  induction items generalizing place with
  | nil => cases hd
  | cons item items ih =>
    rcases List.mem_cons.1 hd with rfl | hd
    · exact ⟨item, List.mem_cons_self, _, rfl⟩
    · obtain ⟨first, hfirst, hleft⟩ := ih hd
      exact ⟨first, List.mem_cons_of_mem _ hfirst, hleft⟩

theorem exists_of_mem_membersWithout {members : List (String × Document ν)}
    {left : String × Document ν} (hleft : left ∈ membersWithout o members) :
    ∃ member ∈ members, ∃ o, left.2 = member.2.without o := by
  induction members with
  | nil => cases hleft
  | cons member members ih =>
    have hmore (h : left ∈ membersWithout o members) :
        ∃ first ∈ member :: members, ∃ o, left.2 = first.2.without o := by
      obtain ⟨first, hfirst, hleft⟩ := ih h
      exact ⟨first, List.mem_cons_of_mem _ hfirst, hleft⟩
    rw [membersWithout] at hleft
    split at hleft
    case isTrue => exact hmore hleft
    case isFalse =>
      rcases List.mem_cons.1 hleft with rfl | hleft
      · exact ⟨member, List.mem_cons_self, _, rfl⟩
      · exact hmore hleft

/-- What can be written can be written with members left out. -/
theorem Writable.without [Scalar ν] {numeral : ν → String} {d : Document ν}
    (hd : d.Writable numeral) (o : Omission) : (d.without o).Writable numeral := by
  induction hd generalizing o with
  | null => exact .null
  | bool b => exact .bool b
  | int hleast hgreatest => exact .int hleast hgreatest
  | float hx => exact .float hx
  | text s => exact .text s
  | list hitems ih =>
    refine .list fun left hleft => ?_
    obtain ⟨item, hitem, o, rfl⟩ := exists_of_mem_itemsWithout hleft
    exact ih item hitem o
  | record hmembers ih =>
    refine .record fun left hleft => ?_
    obtain ⟨member, hmember, o, heq⟩ := exists_of_mem_membersWithout hleft
    rw [heq]
    exact ih member hmember o

end Document

end Loadout
