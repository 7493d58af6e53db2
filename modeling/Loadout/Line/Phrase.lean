import Loadout.Number.Decimal
import Loadout.Pattern.Basic
import Loadout.Text.Normal

/-!
# Phrases

A phrase is found in a line where it stands as whole words, so that one word is never
found inside another. A `#` in a phrase stands for a number. What was found is cut out
and leaves a space. Longer phrases are looked for before shorter ones, and of equally
long ones the earlier in the table first.

All phrases are cut out in rounds, one cut each, until none is found. A cut takes characters
away that are not blank, so there are no more cuts than such characters, unless a phrase is
empty: that is found in every text, and there is no end to the rounds and no outcome.

A phrase is turned into a pattern by construction, character by character, and not
by writing one down and reading it, so no character of a phrase has a special meaning.

## Main definitions

* `numeral`: the pattern of a number
* `Phrase`, `PhraseSet`: phrases with what they stand for
* `Phrase.cut?`: the first occurrence cut out of a text
* `PhraseSet.takeFirst`: the first phrase found, cut out
* `PhraseSet.takeWithin?`: all phrases cut out, everywhere, in a number of rounds
* `PhraseSet.takeAll?`: the same in as many rounds as it takes
-/

namespace Loadout

/-- The pattern of a number: a sign, digits of any script and a fraction. -/
def numeral : Pattern :=
  let digits : Pattern := .repeated (.char (.named .digit)) 1 none true
  Pattern.sequence [
    .repeated (.char (.union (.one '+') (.one '-'))) 0 (some 1) true,
    digits,
    .repeated (.seq (.char (.one '.')) digits) 0 (some 1) true]

/-- Literal texts with a captured number between neighbours, the first under the given number. -/
def withNumerals (slot : Nat) : List (List Char) → Pattern
  | [] => .empty
  | [piece] => .literal piece
  | piece :: more =>
    .seq (.literal piece) (.seq (.group slot numeral) (withNumerals (slot + 1) more))

namespace Phrase

/-- A word boundary beside a letter or number character, and nothing beside any other. -/
def edge (c : Option Char) : Pattern :=
  if c.any Character.isAlphanumeric then .anchor .boundary else .empty

/-- The pattern of a phrase in normal form. -/
def patternOf (text : List Char) : Pattern :=
  Pattern.sequence [
    edge text.head?,
    withNumerals 1 (Text.pieces (· == '#') text),
    edge text.getLast?]

end Phrase

/-- A phrase with what it stands for. -/
structure Phrase (α : Type) where
  text : String
  pattern : Pattern
  payload : α
  /-- The phrase is in normal form. -/
  exists_normal : ∃ source, text = Text.normal source
  pattern_eq : pattern = Phrase.patternOf text.toList

/-- A phrase as it is looked for. -/
def Phrase.ofText {α : Type} (text : String) (payload : α) : Phrase α :=
  let normal := Text.normal text
  { text := normal
    pattern := patternOf normal.toList
    payload
    exists_normal := ⟨text, rfl⟩
    pattern_eq := rfl }

/-- A phrase that was found: what it stands for, and its number if it has one. -/
structure Found (ν α : Type) where
  payload : α
  number : Option ν

variable {ν α : Type} [Scalar ν]

/-- The first occurrence of a phrase, and the text with a space in its place. -/
def Phrase.cut? (p : Phrase α) (text : List Char) : Option (Found ν α × List Char) :=
  (p.pattern.find? text).map fun m =>
    (⟨p.payload, (m.group? 1).bind readNumber?⟩, m.replace [' '])

/-- Cuts a phrase out of a text for as long as it is found, and adds what is found to what was found
before. There is no outcome when the rounds run out. -/
def Phrase.cutWithin? (p : Phrase α) :
    Nat → List (Found ν α) → List Char → Option (List (Found ν α) × List Char)
  | 0, _, _ => none
  | rounds + 1, found, text =>
    match p.cut? text with
    | some (next, rest) => p.cutWithin? rounds (found ++ [next]) rest
    | none => some (found, text)

/-- Phrases, longest first. -/
structure PhraseSet (α : Type) where
  phrases : List (Phrase α)

namespace PhraseSet

omit [Scalar ν] in
/-- The phrases of a table. Length is counted in bytes of UTF-8. -/
def ofRows (rows : List (String × α)) : PhraseSet α :=
  ⟨(rows.map fun row => Phrase.ofText row.1 row.2).mergeSort fun a b =>
    b.text.utf8ByteSize ≤ a.text.utf8ByteSize⟩

/-- The first phrase of the set that is found, and the text without it. -/
def takeFirst (s : PhraseSet α) (text : List Char) : Option (Found ν α) × List Char :=
  match s.phrases.findSome? fun p => p.cut? text with
  | some (found, rest) => (some found, rest)
  | none => (none, text)

/-- All phrases of the set wherever they are found, and the text without them, when a number of
rounds is enough for each of them. -/
def takeWithin? (s : PhraseSet α) (rounds : Nat) (text : List Char) :
    Option (List (Found ν α) × List Char) :=
  s.phrases.foldlM (fun (found, text) p => p.cutWithin? rounds found text) ([], text)

/-- The characters of a text that are not blank. -/
def weight (text : List Char) : Nat :=
  text.countP fun c => !Character.isBlank c

/-- All phrases of the set wherever they are found, and the text without them. One round for each
character that is not blank, and one in which nothing is found, are enough if any number is. -/
def takeAll? (s : PhraseSet α) (text : List Char) : Option (List (Found ν α) × List Char) :=
  s.takeWithin? (weight text + 1) text

end PhraseSet

end Loadout
