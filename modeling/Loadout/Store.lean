import Loadout.Modifier.Basic

/-!
# Stores of modifiers

A store keeps modifiers in the order in which they were added, with an index from
each stat to the positions of its modifiers. Queries about a stat go through the
index and see its modifiers in the order of the store.

## Main definitions

* `Store`: modifiers and their index
* `Store.add`, `Store.addAll`, `Store.merge`, `Store.compose`
* `Store.remove`, `Store.reindex`: what is taken out shifts the positions behind it
* `Store.on`: the modifiers of a stat
* `Store.matching`: those of one kind that apply in a situation, with their effects
* `Store.sum`, `Store.more`, `Store.override?`, `Store.switch`, `Store.entries`: how the
  matching modifiers of each kind combine

## Main results

* `Store.toList_addAll`, `Store.toList_compose`, `Store.toList_removeOrigin`: the list view of
  building and removal
-/

namespace Loadout

/-- Modifiers in the order in which they were added, with an index by stat. -/
structure Store (ν : Type) where
  modifiers : Array (Modifier ν)
  index : Std.ExtTreeMap String (Array Nat)

namespace Store

variable {ν : Type}

/-- No modifiers. -/
def empty : Store ν :=
  ⟨#[], ∅⟩

instance : Inhabited (Store ν) := ⟨empty⟩

/-- Two stores are the same when they hold the same modifiers in the same order. -/
instance [BEq ν] : BEq (Store ν) := ⟨fun a b => a.modifiers == b.modifiers⟩

/-- The modifiers in order. -/
def toList (s : Store ν) : List (Modifier ν) :=
  s.modifiers.toList

/-- How many modifiers there are. -/
def size (s : Store ν) : Nat :=
  s.modifiers.size

/-- Whether there are none. -/
def isEmpty (s : Store ν) : Bool :=
  s.modifiers.isEmpty

/-! ### Building -/

/-- Enters the position of a modifier under its stat. -/
def enter (index : Std.ExtTreeMap String (Array Nat)) (stat : String) (position : Nat) :
    Std.ExtTreeMap String (Array Nat) :=
  index.alter stat fun positions => some ((positions.getD #[]).push position)

/-- Adds a modifier at the end. -/
def add (s : Store ν) (m : Modifier ν) : Store ν :=
  { modifiers := s.modifiers.push m
    index := enter s.index m.stat s.modifiers.size }

/-- Adds modifiers at the end, in order. -/
def addAll (s : Store ν) (ms : List (Modifier ν)) : Store ν :=
  ms.foldl add s

/-- The store of a list of modifiers. -/
def ofList (ms : List (Modifier ν)) : Store ν :=
  empty.addAll ms

/-- Adds the modifiers of another store at the end. -/
def merge (s other : Store ν) : Store ν :=
  s.addAll other.toList

/-- The modifiers of several stores, one store after the other. -/
def compose (parts : List (Store ν)) : Store ν :=
  parts.foldl merge empty

/-- The store with its index made anew. -/
def reindex (s : Store ν) : Store ν :=
  { s with index := s.toList.zipIdx.foldl (fun index entry =>
      enter index entry.1.stat entry.2) ∅ }

/-- The store without the modifiers of a category, or of one member of it. Where there were none the
index stays as it is. -/
def removeOrigin (s : Store ν) (category : Category) (id : Option String) : Store ν :=
  let kept := { s with modifiers := s.modifiers.filter fun m => !m.origin.isFrom category id }
  if kept.size < s.size then kept.reindex else kept

/-- Takes the modifiers of a category, or of one member of it, out of a store, and counts them. -/
def remove (s : Store ν) (category : Category) (id : Option String) : Store ν × Nat :=
  let rest := s.removeOrigin category id
  (rest, s.size - rest.size)

/-- Adding modifiers appends them. -/
theorem toList_addAll (s : Store ν) (ms : List (Modifier ν)) :
    (s.addAll ms).toList = s.toList ++ ms := by
  induction ms generalizing s with
  | nil => simp [addAll]
  | cons m ms ih =>
    have h : s.addAll (m :: ms) = (s.add m).addAll ms := rfl
    rw [h, ih]
    simp [add, toList]

theorem toList_ofList (ms : List (Modifier ν)) : (ofList ms).toList = ms := by
  rw [ofList, toList_addAll]
  rfl

/-- Composing stores appends their modifiers. -/
theorem toList_compose (parts : List (Store ν)) :
    (compose parts).toList = parts.flatMap toList := by
  have h (acc : Store ν) :
      (parts.foldl merge acc).toList = acc.toList ++ parts.flatMap toList := by
    induction parts generalizing acc with
    | nil => simp
    | cons part parts ih => simp [ih, merge, toList_addAll]
  rw [compose, h]
  rfl

/-- Removal keeps the other modifiers in order. -/
theorem toList_removeOrigin (s : Store ν) (category : Category) (id : Option String) :
    (s.removeOrigin category id).toList =
      s.toList.filter fun m => !m.origin.isFrom category id := by
  simp only [removeOrigin, toList]
  split <;> simp [reindex]

/-! ### Searching -/

/-- The modifiers of a stat, in order. -/
def on (s : Store ν) (stat : String) : List (Modifier ν) :=
  ((s.index[stat]?).getD #[]).toList.filterMap fun i => s.modifiers[i]?

/-- The modifiers of a kind, in order. -/
def ofKind (s : Store ν) (kind : Kind) : List (Modifier ν) :=
  s.toList.filter fun m => m.kind == kind

/-- The modifiers of a category, or of one member of it, in order. -/
def ofOrigin (s : Store ν) (category : Category) (id : Option String) : List (Modifier ν) :=
  s.toList.filter fun m => m.origin.isFrom category id

/-- The modifiers whose flags let them apply to a query, in order. -/
def forFlags (s : Store ν) (flags : DamageFlags) : List (Modifier ν) :=
  s.toList.filter fun m => m.flags.appliesTo flags

/-- The modifiers whose keywords let them apply to a query, in order. -/
def forKeywords (s : Store ν) (keywords : KeywordFlags) : List (Modifier ν) :=
  s.toList.filter fun m => m.keywords.appliesTo keywords

/-- The stats that have a modifier, in order of name. -/
def stats (s : Store ν) : List String :=
  s.index.keys

/-- Whether a stat has a modifier. -/
def hasStat (s : Store ν) (stat : String) : Bool :=
  s.index.contains stat

/-- Whether a stat has a modifier of a kind. -/
def hasModifier (s : Store ν) (kind : Kind) (stat : String) : Bool :=
  (s.on stat).any fun m => m.kind == kind

/-! ### Combining -/

variable [Scalar ν]

/-- The modifiers of one kind on a stat that apply, with their effects, in order. -/
def matching (s : Store ν) (kind : Kind) (stat : String) (ctx : Context ν) :
    List (Modifier ν × ν) :=
  ((s.on stat).filter fun m => m.kind == kind).filterMap fun m =>
    (m.effect? ctx).map (m, ·)

/-- The sum of the matching bases or increases. Modifiers of other kinds do not add up, and their
sum is zero. -/
def sum (s : Store ν) (kind : Kind) (stat : String) (ctx : Context ν) : ν :=
  match kind with
  | .base | .increased => Scalar.sum ((s.matching kind stat ctx).map (·.2))
  | _ => Scalar.zero

/-- The product of the matching "more" factors. -/
def more (s : Store ν) (stat : String) (ctx : Context ν) : ν :=
  Scalar.product ((s.matching .more stat ctx).map fun entry => Scalar.one + entry.2)

/-- The last matching override. -/
def override? (s : Store ν) (stat : String) (ctx : Context ν) : Option ν :=
  (s.matching .override stat ctx).getLast?.map (·.2)

/-- Whether a matching switch is on. -/
def switch (s : Store ν) (stat : String) (ctx : Context ν) : Bool :=
  (s.matching .flag stat ctx).any fun entry =>
    match entry.1.value with
    | .flag on => on
    | _ => false

/-- The values of the matching entries, in order. -/
def entries (s : Store ν) (stat : String) (ctx : Context ν) : List (Value ν) :=
  (s.matching .list stat ctx).map (·.1.value)

end Store

end Loadout
