import Std.Data.HashMap
import Loadout.Fault
import Loadout.Line.Phrase
import Loadout.Line.Tables

/-!
# Known lines

Some lines are known as they stand. A known line may mark ranges of numbers as
`(a-b)`; it then answers every line that has, in the place of each range, a numeral
whose value lies between the bounds, in either order, ends included. Lines without
ranges are looked up first, and of equal ones the first in the table counts. Lines with
ranges are tried in the order of the table.

## Main definitions

* `Effect`, `KnownEntry`: what a known line produces
* `splitRanges`: a known line cut at its ranges
* `KnownLines`: the known lines
* `KnownLines.ofRows?`, `KnownLines.lookup?`
-/

namespace Loadout

/-- The flags and keywords of two lists of names, or the first name that is unknown. -/
def flagsOfNames? (flags keywords : List String) : Except Fault (DamageFlags × KeywordFlags) := do
  let flags ← (FlagSet.ofNames flags).mapError Fault.unknownFlag
  let keywords ← (FlagSet.ofNames keywords).mapError Fault.unknownFlag
  return (flags, keywords)

/-- A modifier of a known line, with its flags as sets. -/
structure Effect (ν : Type) where
  row : EffectRow ν
  flags : DamageFlags
  keywords : KeywordFlags

/-- What a known line produces. -/
structure KnownEntry (ν : Type) where
  effects : List (Effect ν)
  isLocal : Bool
  displayOnly : Bool

/-- A known line with ranges. -/
structure RangedEntry (ν : Type) where
  /-- The text before each range and after the last. -/
  pieces : List (List Char)
  pattern : Pattern
  ranges : List (ν × ν)
  entry : KnownEntry ν

/-- The known lines. -/
structure KnownLines (ν : Type) where
  exact : Std.HashMap String (KnownEntry ν)
  ranged : List (RangedEntry ν)

/-- A known line that answers a line, with the numbers at its ranges. -/
structure KnownHit (ν : Type) where
  entry : KnownEntry ν
  /-- No numbers for a line without ranges. -/
  numbers : List ν

/-- The pattern of a range: two numerals with a hyphen between them, in parentheses. -/
def rangePattern : Pattern :=
  let digits : Pattern := .repeated (.char (.named .digit)) 1 none true
  let bound (slot : Nat) : Pattern := .group slot (Pattern.sequence [
    .repeated (.char (.one '-')) 0 (some 1) true,
    digits,
    .repeated (.seq (.char (.one '.')) digits) 0 (some 1) true])
  Pattern.sequence [
    .char (.one '('), bound 1, .char (.one '-'), bound 2, .char (.one ')')]

/-- A text cut at its first ranges, at most `limit` of them: the pieces between them and the bounds
of each as written. -/
def splitRangesWithin : Nat → List Char → List (List Char) × List (List Char × List Char)
  | 0, text => ([text], [])
  | limit + 1, text =>
    match rangePattern.find? text with
    | none => ([text], [])
    | some m =>
      let (pieces, bounds) := splitRangesWithin limit m.after
      (m.before.reverse :: pieces, ((m.group? 1).getD [], (m.group? 2).getD []) :: bounds)

/-- A text cut at its ranges, of which it has at most one for each character. -/
def splitRanges (text : List Char) : List (List Char) × List (List Char × List Char) :=
  splitRangesWithin text.length text

variable {ν : Type} [Scalar ν]

/-- The range between two bounds as written, in either order. -/
def readRange? (bounds : List Char × List Char) : Option (ν × ν) := do
  let a : ν ← readNumber? bounds.1
  let b : ν ← readNumber? bounds.2
  return if b < a then (b, a) else (a, b)

/-- The pattern of a whole line with numbers between the pieces. -/
def wholeLine (pieces : List (List Char)) : Pattern :=
  Pattern.sequence [.anchor .textStart, withNumerals 1 pieces, .anchor .textEnd]

namespace KnownLines

omit [Scalar ν] in
/-- No known lines. -/
def empty : KnownLines ν :=
  ⟨∅, []⟩

omit [Scalar ν] in
/-- What a row produces. -/
def entryOf? (row : KnownRow ν) : Except Fault (KnownEntry ν) := do
  let effects ← row.effects.mapM fun effect => do
    let (flags, keywords) ← flagsOfNames? effect.flags effect.keywords
    return ⟨effect, flags, keywords⟩
  return { effects, isLocal := row.isLocal, displayOnly := row.displayOnly }

/-- The known lines with one row more. -/
def add? (lines : KnownLines ν) (row : KnownRow ν) : Except Fault (KnownLines ν) := do
  let text := Text.normal row.text
  let entry ← entryOf? row
  let (pieces, bounds) := splitRanges text.toList
  if bounds.isEmpty then
    return { lines with exact := lines.exact.insertIfNew text entry }
  else
    match bounds.mapM readRange? with
    | some ranges =>
      let pattern := wholeLine pieces
      return { lines with ranged := lines.ranged ++ [{ pieces, pattern, ranges, entry }] }
    | none => throw (.invalidPattern text Fault.unreadableBounds)

/-- The known lines of a table. -/
def ofRows? (rows : List (KnownRow ν)) : Except Fault (KnownLines ν) :=
  rows.foldlM add? empty

end KnownLines

/-- The numbers that a line has at the ranges of an entry, if it matches and all of them can be
read and lie in their ranges. -/
def RangedEntry.numbers? (e : RangedEntry ν) (line : List Char) : Option (List ν) := do
  let m ← e.pattern.find? line
  let numbers ← (List.range e.ranges.length).mapM fun i => (m.group? (i + 1)).bind readNumber?
  guard ((numbers.zip e.ranges).all fun entry =>
    entry.2.1 ≤ entry.1 && entry.1 ≤ entry.2.2)
  return numbers

/-- The known line that answers a line in normal form. -/
def KnownLines.lookup? (lines : KnownLines ν) (text : String) : Option (KnownHit ν) :=
  match lines.exact[text]? with
  | some entry => some ⟨entry, []⟩
  | none => lines.ranged.findSome? fun e => (e.numbers? text.toList).map fun numbers =>
      ⟨e.entry, numbers⟩

end Loadout
