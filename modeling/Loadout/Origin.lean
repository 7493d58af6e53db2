/-!
# Where modifiers come from

Every modifier remembers the category of input it was read from and, where the
category has several members, which one: a node, an item, a socket or a gem.

## Main definitions

* `Category`: the kinds of input
* `Origin`: a category and an optional identifier
* `Origin.isFrom`: the test that removal and search by origin use
* `Origin.text`: the label under which a contribution is listed
-/

namespace Loadout

/-- The kinds of input that modifiers are read from. -/
inductive Category where
  | characterClass
  | passive
  | jewel
  | item
  | skill
  | config
  | enemy
  | custom
  deriving DecidableEq, Hashable, Repr, Inhabited

namespace Category

/-- The name under which a category is written. -/
def name : Category → String
  | characterClass => "Class"
  | passive => "Passive"
  | jewel => "Jewel"
  | item => "Item"
  | skill => "Skill"
  | config => "Config"
  | enemy => "Enemy"
  | custom => "Custom"

/-- Every category. -/
def all : List Category :=
  [characterClass, passive, jewel, item, skill, config, enemy, custom]

/-- The category of a name. -/
def ofName? (s : String) : Option Category :=
  all.find? fun category => category.name == s

theorem ofName?_name (category : Category) : ofName? category.name = some category := by
  cases category <;> decide

end Category

/-- Where a modifier comes from. -/
structure Origin where
  category : Category
  id : Option String := none
  deriving DecidableEq, Hashable, Repr

namespace Origin

/-- The origin of what has no more specific one. -/
def custom : Origin :=
  { category := .custom }

instance : Inhabited Origin := ⟨custom⟩

/-- Whether an origin is of a category and, when an identifier is asked for, has that one. -/
def isFrom (o : Origin) (category : Category) (id : Option String) : Bool :=
  o.category == category && (id.isNone || o.id == id)

/-- The category's name, followed by the identifier if there is one. -/
def text (o : Origin) : String :=
  match o.id with
  | some id => o.category.name ++ ":" ++ id
  | none => o.category.name

end Origin

end Loadout
