import Loadout.Line.Form
import Loadout.Line.Known
import Loadout.Line.Outcome
import Loadout.Text.Template

/-!
# Reading lines by a grammar

A grammar is the tables with their patterns compiled. A line in normal form is first
looked up among the known lines; then the first form that matches decides. The words
that name the stat are read by cutting phrases out of them: at most one condition, at
most one stat, then every flag. What remains besides filler words is reported.

Cutting flags out of a text is the only part of this that may have no end, and it is a parameter of
what follows it. A line whose flags are cut without end has no outcome.

## Main definitions

* `Grammar`: tables with their patterns
* `Grammar.ofTables?`: compiles the patterns, or gives the first fault
* `Grammar.readStat?`: what the words of a stat mean
* `Grammar.interpretBy?`, `Grammar.parseBy?`: the outcome of a line, given how flags are cut
* `Grammar.interpret?`, `Grammar.parse?`: the outcome of a line
* `Grammar.parseLines?`: the outcomes of a block
* `Grammar.modifiersOf`: the modifiers of several lines
-/

namespace Loadout

/-- What a stat phrase stands for. -/
structure StatMeaning where
  stat : String
  flags : DamageFlags
  keywords : KeywordFlags

/-- What a flag phrase stands for. -/
structure FlagMeaning where
  flags : DamageFlags
  keywords : KeywordFlags

/-- Parser tables with their patterns read. -/
structure Grammar (ν : Type) where
  known : KnownLines ν
  forms : List (Form ν)
  stats : PhraseSet StatMeaning
  flags : PhraseSet FlagMeaning
  conditions : PhraseSet (Condition ν)

/-- What the words of a stat mean. -/
structure StatReading (ν : Type) where
  stat : Option String := none
  flags : DamageFlags := .empty
  keywords : KeywordFlags := .empty
  condition : Option (Condition ν) := none
  /-- The words without a meaning, if there are any. -/
  warning : Option String := none

/-- The outcome of a line before it is attributed to a place. -/
structure Interpretation (ν : Type) where
  outcome : Outcome ν
  isLocal : Bool := false

/-- The words that may remain around a stat. -/
def fillers : List String :=
  ["a", "an", "and", "are", "for", "global", "is", "of", "the", "to", "with", "you", "your"]

namespace Grammar

variable {ν : Type}

/-! ### Tables -/

/-- The phrases of a stat table. -/
def statMeaning? (row : StatRow) : Except Fault (String × StatMeaning) := do
  let (flags, keywords) ← flagsOfNames? row.flags row.keywords
  return (row.phrase, ⟨row.stat, flags, keywords⟩)

/-- The phrases of a flag table. -/
def flagMeaning? (row : FlagRow) : Except Fault (String × FlagMeaning) := do
  let (flags, keywords) ← flagsOfNames? row.flags row.keywords
  return (row.phrase, ⟨flags, keywords⟩)

/-- Whether a condition has a place for a number. -/
def takesNumber : Condition ν → Bool
  | .state _ _ => false
  | _ => true

/-- The phrases of a condition table: one number at most, and none where the condition has no
place for it. -/
def conditionMeaning? (row : ConditionRow ν) : Except Fault (String × Condition ν) :=
  let placeholders := row.phrase.toList.count '#'
  if 1 < placeholders || (placeholders == 1 && !takesNumber row.condition) then
    .error (.unexpectedPlaceholder row.phrase)
  else
    .ok (row.phrase, row.condition)

/-- Compiles the patterns of the tables, or gives the first fault: forms come first, then stats,
flags, conditions and known lines. -/
def ofTables? [Scalar ν] (compile : PatternCompiler) (t : ParserTables ν) :
    Except Fault (Grammar ν) := do
  let forms ← t.forms.mapM (Form.ofRow? compile)
  let stats ← t.stats.mapM statMeaning?
  let flags ← t.flags.mapM flagMeaning?
  let conditions ← t.conditions.mapM conditionMeaning?
  let known ← KnownLines.ofRows? t.known
  return {
    known
    forms
    stats := .ofRows stats
    flags := .ofRows flags
    conditions := .ofRows conditions }

variable [Scalar ν] (g : Grammar ν)
  (take : List Char → Option (List (Found ν FlagMeaning) × List Char))

/-! ### Phrases -/

omit [Scalar ν] in
/-- The flags and keywords of every flag phrase in a text, and the text without them. -/
def cutFlags? (text : List Char) : Option (DamageFlags × KeywordFlags × List Char) := do
  let (found, rest) ← take text
  let flags := found.foldl (fun set f => set ∪ f.payload.flags) FlagSet.empty
  let keywords := found.foldl (fun set f => set ∪ f.payload.keywords) FlagSet.empty
  return (flags, keywords, rest)

/-- The words of a text that are no fillers, one space apart. -/
def leftover (text : List Char) : List Char :=
  Text.join [' '] ((Text.words text).filter fun word => !fillers.contains (String.ofList word))

omit [Scalar ν] in
/-- What the words of a stat mean, by what was cut out of them: a condition, a stat, and flags with
the text that remains. -/
def reading (words : List Char) (condition : Option (Found ν (Condition ν)))
    (meaning : Option (Found ν StatMeaning)) (cut : DamageFlags × KeywordFlags × List Char) :
    StatReading ν :=
  let (flags, keywords, rest) := cut
  let remaining := leftover rest
  let condition := condition.map fun found => found.payload.withNumber found.number
  match meaning with
  | some found =>
    { stat := some found.payload.stat
      flags := flags ∪ found.payload.flags
      keywords := keywords ∪ found.payload.keywords
      condition
      warning := if remaining.isEmpty then none
        else some ("unrecognised text \"" ++ String.ofList remaining ++ "\"") }
  | none =>
    let basis := if remaining.isEmpty then Text.squeeze words else remaining
    { stat := some (String.ofList (Text.pascalCase basis))
      flags
      keywords
      condition
      warning := some ("unknown stat \"" ++ String.ofList basis ++ "\"") }

/-- What the words of a stat mean. -/
def readStat? (words : List Char) : Option (StatReading ν) :=
  let (condition, rest) : Option (Found ν (Condition ν)) × List Char :=
    g.conditions.takeFirst words
  let (meaning, rest) : Option (Found ν StatMeaning) × List Char := g.stats.takeFirst rest
  (cutFlags? take rest).map (reading words condition meaning)

/-! ### Known lines -/

/-- The modifiers of a known line's effects. The numbers of the line go to the effects that carry
a number, in order, while there are any. -/
def fillEffects (flags : DamageFlags) (keywords : KeywordFlags) :
    List (Effect ν) → List ν → List (Modifier ν)
  | [], _ => []
  | effect :: rest, numbers =>
    let (value, numbers) := match effect.row.value, numbers with
      | .number _, n :: numbers => (Value.number (n * effect.row.scale), numbers)
      | value, numbers => (value, numbers)
    { stat := effect.row.stat
      kind := effect.row.kind
      value
      flags := effect.flags ∪ flags
      keywords := effect.keywords ∪ keywords
      condition := effect.row.condition } :: fillEffects flags keywords rest numbers

/-- The outcome of a line that a known line answers. -/
def ofKnown? (line : String) (hit : KnownHit ν) : Option (Interpretation ν) :=
  if hit.entry.displayOnly then
    some { outcome := .displayOnly }
  else
    (cutFlags? take line.toList).map fun (flags, keywords, _) =>
      { outcome := .produced (fillEffects flags keywords hit.entry.effects hit.numbers) []
        isLocal := hit.entry.isLocal }

/-! ### Forms -/

/-- The number of the `i`-th modifier of a form: its own, or the last of the line, or the form's,
or one. -/
def outputNumber (row : FormRow ν) (values : List ν) (i : Nat) : ν :=
  match values[i]?.or values.getLast? with
  | some x => x
  | none => row.value.getD Scalar.one

/-- The value of a modifier of a kind. -/
def outputValue (kind : Kind) (number : ν) (entry : List Char) : Value ν :=
  match kind with
  | .flag => .flag !(number == Scalar.zero)
  | .list => .entry (String.ofList entry)
  | _ => .number number

/-- What the group of a form's stat means. A form of a list does not read it. -/
def groupReading? (kind : Kind) (stat : Option (List Char)) : Option (StatReading ν) :=
  match stat with
  | some words => if kind = Kind.list then some {} else g.readStat? take words
  | none => some {}

/-- The outcome of a line that a producing form matches, by what its stat group means. -/
def ofReading (line : String) (form : Form ν) (m : FormMatch ν) (kind : Kind)
    (reading : StatReading ν) : Interpretation ν :=
  let values := m.values.map (· * form.row.scale)
  let entry := ((m.groups.lookup "entry").or m.stat).getD line.toList
  match form.row.templates.mapM fun template => Text.fill template reading.stat m.groups with
  | none => { outcome := .unsupported ("form " ++ form.row.id ++ " has no stat to name") }
  | some names =>
    let modifiers := names.zipIdx.map fun (stat, i) =>
      { stat
        kind
        value := outputValue kind (outputNumber form.row values i) entry
        flags := reading.flags
        keywords := reading.keywords
        condition := reading.condition }
    { outcome := .produced modifiers reading.warning.toList
      isLocal := form.row.isLocal }

/-- The outcome of a line that a form matches. -/
def ofForm? (line : String) (form : Form ν) (m : FormMatch ν) : Option (Interpretation ν) :=
  match form.row.produced? with
  | none => some { outcome := .displayOnly }
  | some kind => (g.groupReading? take kind m.stat).map (ofReading line form m kind)

/-! ### Lines -/

/-- The outcome of a line in normal form, given how flags are cut. -/
def interpretBy? (line : String) : Option (Interpretation ν) :=
  match g.known.lookup? line with
  | some hit => ofKnown? take line hit
  | none =>
    match g.forms.findSome? fun form => (form.match? line.toList).map (form, ·) with
    | some (form, m) => g.ofForm? take line form m
    | none => some { outcome := .unsupported "no matching pattern" }

/-- The outcome of a line at a place, given how flags are cut. -/
def parseBy? (text : String) (ctx : LineContext) : Option (Outcome ν) :=
  let line := Text.normal text
  if line = "" then
    some (.unsupported "empty modifier text")
  else
    (g.interpretBy? take line).map fun i => i.outcome.stamp ctx i.isLocal

/-- The outcome of a line in normal form. There is none when its flags are cut without end. -/
def interpret? (line : String) : Option (Interpretation ν) :=
  g.interpretBy? g.flags.takeAll? line

/-- The outcome of a line at a place. There is none when its flags are cut without end. -/
def parse? (text : String) (ctx : LineContext) : Option (Outcome ν) :=
  g.parseBy? g.flags.takeAll? text ctx

/-- The outcomes of the nonblank lines of a block, if each of them has one. -/
def parseLines? (text : String) (ctx : LineContext) : Option (List (Outcome ν)) :=
  (Text.nonblankLines text).mapM fun line => g.parse? line ctx

/-- The modifiers of several lines at one place, in order. A line without an outcome has none here;
what is built of such lines never comes to be. -/
def modifiersOf (lines : List String) (ctx : LineContext) : List (Modifier ν) :=
  lines.flatMap fun line => (g.parse? line ctx).elim [] Outcome.modifiers

end Grammar

end Loadout
