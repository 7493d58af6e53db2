import Loadout.Number.Hexadecimal
import Loadout.Text.Pieces

/-!
# Sets of flags

A flag set is a word of 64 bits of which some have names. Bits without a name are
kept: they take part in every operation and are written as one hexadecimal number.
There are two vocabularies, one for the kind of damage a modifier acts on and one for
the keywords of a skill, so their sets are different types.

A modifier with no flags applies everywhere. Otherwise each of its flags must be
among those of the query.

## Main definitions

* `FlagSet`: a set over a vocabulary
* `FlagSet.appliesTo`: the rule above
* `FlagSet.ofNames`: the set of a list of names
* `FlagSet.text`, `FlagSet.ofText?`: the written form
* `DamageFlags`, `KeywordFlags`: the two vocabularies

## Main results

* `FlagSet.appliesTo_iff`: the rule in terms of single bits
* `FlagSet.appliesTo_mono`: a wider query never loses a modifier
-/

namespace Loadout

/-- The named flags of a kind: each name with the position of its bit. -/
abbrev Vocabulary := List (String × Nat)

/-- A set of flags, named and unnamed, over a vocabulary. -/
structure FlagSet (names : Vocabulary) where
  bits : BitVec 64
  deriving DecidableEq, Hashable

namespace FlagSet

variable {names : Vocabulary}

/-- No flags. -/
def empty : FlagSet names :=
  ⟨0⟩

instance : Inhabited (FlagSet names) := ⟨empty⟩

/-- The flags of either set. -/
def union (a b : FlagSet names) : FlagSet names :=
  ⟨a.bits ||| b.bits⟩

instance : Union (FlagSet names) := ⟨union⟩

/-- The one flag at a position. -/
def single (position : Nat) : FlagSet names :=
  ⟨BitVec.twoPow 64 position⟩

/-- Whether the flag at a position is in the set. -/
def has (a : FlagSet names) (position : Nat) : Bool :=
  a.bits.getLsbD position

/-- Whether every flag of `a` is one of `b`. -/
def within (a b : FlagSet names) : Bool :=
  a.bits &&& b.bits == a.bits

/-- Whether a modifier with the flags `a` applies to a query with the flags `query`. -/
def appliesTo (a query : FlagSet names) : Bool :=
  a.bits == 0 || a.within query

theorem within_iff {a b : FlagSet names} :
    a.within b = true ↔ ∀ i < 64, a.has i = true → b.has i = true := by
  simp only [within, has, beq_iff_eq]
  constructor
  · intro h i _ hi
    rw [← h, BitVec.getLsbD_and, Bool.and_eq_true] at hi
    exact hi.2
  · intro h
    apply BitVec.eq_of_getLsbD_eq
    intro i hi
    rw [BitVec.getLsbD_and]
    cases ha : a.bits.getLsbD i with
    | false => simp
    | true => simp [h i hi ha]

/-- A modifier applies exactly when each of its flags is one of the query's: the empty set needs
no case of its own. -/
theorem appliesTo_iff {a query : FlagSet names} :
    a.appliesTo query = true ↔ ∀ i < 64, a.has i = true → query.has i = true := by
  rw [appliesTo, Bool.or_eq_true, within_iff]
  constructor
  · rintro (h | h)
    · intro i _ hi
      rw [beq_iff_eq] at h
      simp [has, h] at hi
    · exact h
  · exact Or.inr

/-- A wider query never loses a modifier. -/
theorem appliesTo_mono {a small large : FlagSet names} (hq : small.within large = true)
    (h : a.appliesTo small = true) : a.appliesTo large = true := by
  rw [appliesTo_iff] at h ⊢
  rw [within_iff] at hq
  exact fun i hi ha => hq i hi (h i hi ha)

/-- The flag of a name. -/
def named? (name : String) : Option (FlagSet names) :=
  (names.lookup name).map single

/-- The set of a list of names, or the first name that is not in the vocabulary. -/
def ofNames (list : List String) : Except String (FlagSet names) :=
  list.foldlM (fun set name =>
    match named? name with
    | some flag => .ok (set ∪ flag)
    | none => .error name) empty

/-- The flags of the set that have no name. -/
def unnamed (a : FlagSet names) : FlagSet names :=
  ⟨names.foldl (fun rest entry => rest &&& ~~~ BitVec.twoPow 64 entry.2) a.bits⟩

/-- The written form: names in the order of the vocabulary, then the unnamed bits as one
hexadecimal number. -/
def text (a : FlagSet names) : String :=
  let known := (names.filter fun entry => a.has entry.2).map (·.1)
  let rest := a.unnamed.bits.toNat
  let unknown := if rest = 0 then [] else ["0x" ++ String.ofList (Nat.toDigits 16 rest)]
  String.intercalate " | " (known ++ unknown)

/-- The 64-bit number that hexadecimal digits spell; one plus sign may come first. -/
def hexWord? (cs : List Char) : Option (BitVec 64) := do
  let digits := match cs with
    | '+' :: rest => rest
    | _ => cs
  let n ← Hexadecimal.read? digits
  guard (n < Nat.pow 2 64)
  return BitVec.ofNat 64 n

/-- One part of the written form: a name, or `0x` and a number. -/
def ofPart? (part : List Char) : Option (FlagSet names) :=
  match part with
  | [] => none
  | '0' :: 'x' :: digits => (hexWord? digits).map FlagSet.mk
  | _ => named? (String.ofList part)

/-- Reads the written form. Blanks around a part do not count, a blank text is the empty set, and
an empty part among others is refused. -/
def ofText? (s : String) : Option (FlagSet names) :=
  if Text.trim s.toList = [] then
    some empty
  else
    (Text.pieces (· == '|') s.toList).foldlM (fun set part =>
      (ofPart? (Text.trim part)).map (set ∪ ·)) empty

end FlagSet

/-- The flags of a damage instance. -/
def damageFlagNames : Vocabulary :=
  [("ATTACK", 0), ("SPELL", 1), ("HIT", 2), ("DOT", 3), ("CAST", 4), ("MELEE", 5), ("AREA", 6),
    ("PROJECTILE", 7), ("AILMENT", 8), ("MELEE_HIT", 9), ("WEAPON", 10), ("AXE", 16), ("BOW", 17),
    ("CLAW", 18), ("DAGGER", 19), ("MACE", 20), ("STAFF", 21), ("SWORD", 22), ("WAND", 23),
    ("UNARMED", 24), ("WEAPON_ONE_HAND", 28), ("WEAPON_TWO_HAND", 29), ("WEAPON_RANGED", 30),
    ("SHIELD", 32), ("DUAL_WIELD", 33)]

/-- The keywords of a skill. -/
def keywordFlagNames : Vocabulary :=
  [("AURA", 0), ("CURSE", 1), ("WARCRY", 2), ("MOVEMENT", 3), ("PHYSICAL", 4), ("FIRE", 5),
    ("COLD", 6), ("LIGHTNING", 7), ("CHAOS", 8), ("VAAL", 9), ("BOW", 10), ("TRAP", 11),
    ("MINE", 12), ("TOTEM", 13), ("MINION", 14), ("ATTACK", 16), ("SPELL", 17), ("HIT", 18),
    ("AILMENT", 19), ("BRAND", 20), ("POISON", 21), ("BLEED", 22), ("IGNITE", 23), ("ARCANE", 24),
    ("HEX", 40), ("MARK", 41)]

/-- Which damage instances a modifier acts on, or which one a query is about. -/
abbrev DamageFlags := FlagSet damageFlagNames

/-- Which skill keywords a modifier needs, or which ones a query has. -/
abbrev KeywordFlags := FlagSet keywordFlagNames

end Loadout
