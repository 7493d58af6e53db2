import Loadout.Proofs.Line.Lookup
import Loadout.Proofs.Pattern.Written
import Loadout.Line.Parser

/-!
# Which tables are accepted, and the fault that is named

Every entry of the tables has its faults, in the order in which they are looked for, and the
faults of the tables are those of their entries in order. Reading stops at the first one and names
it. So the fault that reading ends with is the head of a list that can be written down without
stopping anywhere, and tables without faults are exactly those that are accepted.

A phrase is in none of these faults, since its pattern is built and not read. That agrees with
writing the pattern down and reading it, which never fails.

## Main definitions

* `ParserTables.faults`: all faults of the tables, in order
* `ParserTables.WellFormed`: what tables without faults are
* `Fault.of?`: the fault that a reading ends with

## Main results

* `Fault.of?_mapM`: a list is read up to its first faulty member
* `Grammar.of?_ofTables?`: the fault that reading tables ends with
* `ParserTables.faults_eq_nil_iff`: the tables without faults
* `Parser.ofTables?_iff_wellFormed`: tables are accepted exactly when they are well-formed, and
  otherwise the first fault is named
-/

namespace Loadout

open Pattern

/-! ### Faults of the entries -/

/-- The names of a list that are not in a vocabulary. -/
def Vocabulary.missing (names : Vocabulary) (list : List String) : List String :=
  list.filter fun name => (names.lookup name).isNone

/-- The unknown names of flags, and then those of keywords. -/
def flagFaults (flags keywords : List String) : List Fault :=
  (damageFlagNames.missing flags ++ keywordFlagNames.missing keywords).map .unknownFlag

section Entries

variable {ν : Type}

/-- A form lacks its kind, and its pattern does not compile. -/
def FormRow.faults (compile : PatternCompiler) (row : FormRow ν) : List Fault :=
  (if row.kind.isNone && !row.displayOnly then [.withoutKind row.id] else []) ++
    match compile row.expanded with
    | .ok _ => []
    | .error reason => [.invalidPattern row.pattern reason]

/-- A condition phrase has a placeholder that the condition has no place for, or one too many. -/
def ConditionRow.faults (row : ConditionRow ν) : List Fault :=
  let placeholders := row.phrase.toList.count '#'
  if 1 < placeholders || (placeholders == 1 && !Grammar.takesNumber row.condition) then
    [.unexpectedPlaceholder row.phrase]
  else
    []

/-- Whether both bounds of a range can be read. -/
def readable (bounds : List Char × List Char) : Bool :=
  (Decimal.read? bounds.1).isSome && (Decimal.read? bounds.2).isSome

/-- A known line has effects with unknown names, and a range with bounds that cannot be read. -/
def KnownRow.faults (row : KnownRow ν) : List Fault :=
  (row.effects.flatMap fun effect => flagFaults effect.flags effect.keywords) ++
    if (splitRanges (Text.normal row.text).toList).2.all readable then []
    else [.invalidPattern (Text.normal row.text) Fault.unreadableBounds]

/-- All faults of the tables: those of the forms, then of the stats, the flags, the conditions and
the known lines. -/
def ParserTables.faults (compile : PatternCompiler) (t : ParserTables ν) : List Fault :=
  t.forms.flatMap (FormRow.faults compile) ++
    ((t.stats.flatMap fun row => flagFaults row.flags row.keywords) ++
      ((t.flags.flatMap fun row => flagFaults row.flags row.keywords) ++
        (t.conditions.flatMap ConditionRow.faults ++ t.known.flatMap KnownRow.faults)))

end Entries

/-! ### The fault that a reading ends with -/

namespace Fault

variable {α β : Type}

/-- The fault that a reading ends with, if it has one. -/
def of? : Except Fault α → Option Fault
  | .ok _ => none
  | .error fault => some fault

theorem of?_eq_none_iff {x : Except Fault α} : of? x = none ↔ ∃ a, x = .ok a := by
  cases x <;> simp [of?]

theorem of?_eq_some_iff {x : Except Fault α} {fault : Fault} :
    of? x = some fault ↔ x = .error fault := by
  cases x <;> simp [of?]

/-- A reading in two steps ends with the fault of the first, or else with that of the second. -/
theorem of?_bind {x : Except Fault α} {f : α → Except Fault β} {fault : Option Fault}
    (h : ∀ a, x = .ok a → of? (f a) = fault) : of? (x >>= f) = (of? x).or fault := by
  cases x with
  | error fault => rfl
  | ok a => exact h a rfl

theorem of?_bind_pure (x : Except Fault α) (f : α → β) :
    of? (x >>= fun a => pure (f a)) = of? x := by
  cases x <;> rfl

/-- A list is read up to its first faulty member. -/
theorem of?_mapM {f : α → Except Fault β} {faults : α → List Fault}
    (h : ∀ a, of? (f a) = (faults a).head?) (as : List α) :
    of? (as.mapM f) = (as.flatMap faults).head? := by
  induction as with
  | nil => rfl
  | cons a as ih =>
    rw [List.mapM_cons, List.flatMap_cons, List.head?_append, ← h, ← ih]
    exact of?_bind fun b _ => of?_bind_pure _ _

/-- Entries are put in one after the other up to the first faulty one. -/
theorem of?_foldlM {f : β → α → Except Fault β} {faults : α → List Fault}
    (h : ∀ b a, of? (f b a) = (faults a).head?) (as : List α) (b : β) :
    of? (as.foldlM f b) = (as.flatMap faults).head? := by
  induction as generalizing b with
  | nil => rfl
  | cons a as ih =>
    rw [List.foldlM_cons, List.flatMap_cons, List.head?_append, ← h b a]
    exact of?_bind fun b _ => ih b

end Fault

open Fault

theorem FlagSet.of?_ofNames {names : Vocabulary} (list : List String) :
    of? ((ofNames list : Except String (FlagSet names)).mapError Fault.unknownFlag) =
      ((names.missing list).map Fault.unknownFlag).head? := by
  rw [ofNames]
  generalize (empty : FlagSet names) = set
  induction list generalizing set with
  | nil => rfl
  | cons name list ih =>
    rw [List.foldlM_cons, Vocabulary.missing, List.filter_cons, named?]
    cases names.lookup name with
    | none => rfl
    | some position => exact ih _

theorem of?_flagsOfNames? (flags keywords : List String) :
    of? (flagsOfNames? flags keywords) = (flagFaults flags keywords).head? := by
  rw [flagFaults, List.map_append, List.head?_append, ← FlagSet.of?_ofNames,
    ← FlagSet.of?_ofNames]
  exact of?_bind fun _ _ => of?_bind_pure _ _

section Tables

variable {ν : Type} (compile : PatternCompiler)

theorem Form.of?_ofRow? (row : FormRow ν) :
    of? (ofRow? compile row) = (row.faults compile).head? := by
  unfold ofRow? FormRow.faults
  split
  · rfl
  · cases compile row.expanded <;> rfl

theorem Grammar.of?_statMeaning? (row : StatRow) :
    of? (statMeaning? row) = (flagFaults row.flags row.keywords).head? := by
  rw [← of?_flagsOfNames?]
  exact of?_bind_pure _ _

theorem Grammar.of?_flagMeaning? (row : FlagRow) :
    of? (flagMeaning? row) = (flagFaults row.flags row.keywords).head? := by
  rw [← of?_flagsOfNames?]
  exact of?_bind_pure _ _

theorem Grammar.of?_conditionMeaning? (row : ConditionRow ν) :
    of? (conditionMeaning? row) = row.faults.head? := by
  simp only [conditionMeaning?, ConditionRow.faults]
  split <;> rfl

theorem KnownLines.of?_entryOf? (row : KnownRow ν) :
    of? (entryOf? row) =
      (row.effects.flatMap fun effect => flagFaults effect.flags effect.keywords).head? := by
  have heffect (effect : EffectRow ν) :
      of? (flagsOfNames? effect.flags effect.keywords >>= fun names =>
        pure (⟨effect, names.1, names.2⟩ : Effect ν)) =
          (flagFaults effect.flags effect.keywords).head? := by
    rw [← of?_flagsOfNames?]
    exact of?_bind_pure _ _
  rw [← of?_mapM heffect]
  exact of?_bind_pure _ _

variable [Scalar ν]

theorem isSome_mapM_readRange? (bounds : List (List Char × List Char)) :
    (bounds.mapM (readRange? : _ → Option (ν × ν))).isSome = bounds.all readable := by
  induction bounds with
  | nil => rfl
  | cons b bounds ih =>
    have hb : (readRange? b : Option (ν × ν)).isSome = readable b := by
      simp only [readRange?, readable, readNumber?]
      cases Decimal.read? b.1 <;> cases Decimal.read? b.2 <;> rfl
    rw [List.mapM_cons, List.all_cons, ← hb, ← ih]
    cases (readRange? b : Option (ν × ν)) with
    | none => rfl
    | some range => cases bounds.mapM (readRange? : _ → Option (ν × ν)) <;> rfl

theorem KnownLines.of?_add? (lines : KnownLines ν) (row : KnownRow ν) :
    of? (lines.add? row) = row.faults.head? := by
  rw [KnownRow.faults, List.head?_append, ← of?_entryOf?]
  refine of?_bind fun entry _ => ?_
  cases splitRanges (Text.normal row.text).toList with
  | mk pieces bounds =>
  have hread := isSome_mapM_readRange? (ν := ν) bounds
  cases bounds with
  | nil => rfl
  | cons b bounds =>
    dsimp only at hread ⊢
    rw [← hread]
    cases (b :: bounds).mapM (readRange? : _ → Option (ν × ν)) <;> rfl

/-- The tables are read up to their first fault. -/
theorem Grammar.of?_ofTables? (t : ParserTables ν) :
    of? (ofTables? compile t) = (t.faults compile).head? := by
  rw [ParserTables.faults, List.head?_append, List.head?_append, List.head?_append,
    List.head?_append, ← of?_mapM (Form.of?_ofRow? compile), ← of?_mapM of?_statMeaning?,
    ← of?_mapM of?_flagMeaning?, ← of?_mapM of?_conditionMeaning?,
    ← of?_foldlM KnownLines.of?_add? t.known .empty]
  exact of?_bind fun _ _ => of?_bind fun _ _ => of?_bind fun _ _ => of?_bind fun _ _ =>
    of?_bind_pure _ _

/-! ### Well-formed tables -/

/-- Every name of flags and of keywords is in its vocabulary. -/
def NamesKnown (flags keywords : List String) : Prop :=
  (∀ name ∈ flags, name ∈ damageFlagNames.map Prod.fst) ∧
    ∀ name ∈ keywords, name ∈ keywordFlagNames.map Prod.fst

omit [Scalar ν] in
/-- Tables that can be used. -/
structure ParserTables.WellFormed (t : ParserTables ν) : Prop where
  /-- A form has a kind or is for display, and its expanded pattern compiles. -/
  forms : ∀ row ∈ t.forms, (row.kind ≠ none ∨ row.displayOnly = true) ∧
    ∃ pattern, compile row.expanded = .ok pattern
  stats : ∀ row ∈ t.stats, NamesKnown row.flags row.keywords
  flags : ∀ row ∈ t.flags, NamesKnown row.flags row.keywords
  /-- A condition phrase has one placeholder at most, and none when the condition is a state. -/
  conditions : ∀ row ∈ t.conditions, row.phrase.toList.count '#' ≤ 1 ∧
    ∀ name negated, row.condition = .state name negated → '#' ∉ row.phrase.toList
  /-- The effects of a known line have known names, and both bounds of each range in its normal
  form are numerals that have a value. -/
  known : ∀ row ∈ t.known,
    (∀ effect ∈ row.effects, NamesKnown effect.flags effect.keywords) ∧
      ∀ pieces bounds, Template (Text.normal row.text).toList pieces bounds →
        ∀ range ∈ bounds, (∃ low, Decimal.read? range.1 = some low) ∧
          ∃ high, Decimal.read? range.2 = some high

theorem Vocabulary.missing_eq_nil_iff {names : Vocabulary} {list : List String} :
    names.missing list = [] ↔ ∀ name ∈ list, name ∈ names.map Prod.fst := by
  rw [missing, List.filter_eq_nil_iff]
  refine forall₂_congr fun name _ => ?_
  rw [Option.isNone_iff_eq_none, List.lookup_eq_none_iff]
  simp

theorem flagFaults_eq_nil_iff {flags keywords : List String} :
    flagFaults flags keywords = [] ↔ NamesKnown flags keywords := by
  rw [flagFaults, List.map_eq_nil_iff, List.append_eq_nil_iff, Vocabulary.missing_eq_nil_iff,
    Vocabulary.missing_eq_nil_iff, NamesKnown]

omit [Scalar ν] in
variable {compile} in
theorem FormRow.faults_eq_nil_iff {row : FormRow ν} :
    row.faults compile = [] ↔ (row.kind ≠ none ∨ row.displayOnly = true) ∧
      ∃ pattern, compile row.expanded = .ok pattern := by
  rw [faults, List.append_eq_nil_iff]
  refine and_congr ?_ ?_
  · cases row.kind <;> cases row.displayOnly <;> simp
  · cases compile row.expanded <;> simp

omit [Scalar ν] in
theorem ConditionRow.faults_eq_nil_iff {row : ConditionRow ν} :
    row.faults = [] ↔ row.phrase.toList.count '#' ≤ 1 ∧
      ∀ name negated, row.condition = .state name negated → '#' ∉ row.phrase.toList := by
  have hstate : (∀ name negated, row.condition = .state name negated → '#' ∉ row.phrase.toList) ↔
      (Grammar.takesNumber row.condition = false → '#' ∉ row.phrase.toList) := by
    cases row.condition <;> simp [Grammar.takesNumber]
  rw [hstate, ← List.count_eq_zero]
  simp only [faults]
  generalize row.phrase.toList.count '#' = placeholders
  cases Grammar.takesNumber row.condition
  · simp
    omega
  · simp

omit [Scalar ν] in
theorem KnownRow.faults_eq_nil_iff {row : KnownRow ν} :
    row.faults = [] ↔ (∀ effect ∈ row.effects, NamesKnown effect.flags effect.keywords) ∧
      ∀ pieces bounds, Template (Text.normal row.text).toList pieces bounds →
        ∀ range ∈ bounds, (∃ low, Decimal.read? range.1 = some low) ∧
          ∃ high, Decimal.read? range.2 = some high := by
  have hread : (splitRanges (Text.normal row.text).toList).2.all readable = true ↔
      ∀ pieces bounds, Template (Text.normal row.text).toList pieces bounds →
        ∀ range ∈ bounds, (∃ low, Decimal.read? range.1 = some low) ∧
          ∃ high, Decimal.read? range.2 = some high := by
    simp only [List.all_eq_true, readable, Bool.and_eq_true, Option.isSome_iff_exists]
    constructor
    · intro h pieces bounds htemplate
      rwa [splitRanges_eq_iff.2 htemplate] at h
    · intro h
      exact h _ _ (template_splitRanges _)
  rw [faults, List.append_eq_nil_iff, ← hread]
  refine and_congr ?_ ?_
  · simp only [List.flatMap_eq_nil_iff, flagFaults_eq_nil_iff]
  · split <;> simp [*]

omit [Scalar ν] in
variable {compile} in
/-- Tables without faults are the well-formed ones. -/
theorem ParserTables.faults_eq_nil_iff {t : ParserTables ν} :
    t.faults compile = [] ↔ t.WellFormed compile := by
  simp only [faults, List.append_eq_nil_iff, List.flatMap_eq_nil_iff, FormRow.faults_eq_nil_iff,
    flagFaults_eq_nil_iff, ConditionRow.faults_eq_nil_iff, KnownRow.faults_eq_nil_iff]
  exact ⟨fun ⟨hforms, hstats, hflags, hconditions, hknown⟩ =>
    ⟨hforms, hstats, hflags, hconditions, hknown⟩,
    fun h => ⟨h.forms, h.stats, h.flags, h.conditions, h.known⟩⟩

variable {compile} in
theorem ParserTables.WellFormed.exists_grammar {t : ParserTables ν} (h : t.WellFormed compile) :
    ∃ g, Grammar.ofTables? compile t = .ok g := by
  rw [← of?_eq_none_iff, Grammar.of?_ofTables?, faults_eq_nil_iff.2 h]
  rfl

/-- With any compiler, which says what a pattern is, a parser is made of tables exactly when they
are well-formed, and otherwise their first fault is named. No phrase is at fault for its characters.
Its pattern, with the characters that have a meaning in patterns after a backslash, a group for a
number in the place of `#` and a word boundary where a letter or a number character stands at an
end, is read, and finds what is looked for; and so it is with the literal pieces of known lines. -/
theorem Parser.ofTables?_iff_wellFormed (t : ParserTables ν) :
    (∀ fault, Parser.ofTables? compile t = .error fault ↔
      (t.faults compile).head? = some fault) ∧
    ((∃ p, Parser.ofTables? compile t = .ok p) ↔ t.WellFormed compile) ∧
    (∀ (phrase : String) (α : Type) (payload : α),
      ∃ q, NamedPattern.read (String.ofList (Phrase.written (Text.normal phrase).toList)) = .ok q ∧
        ∀ line, q.pattern.find? line = (Phrase.ofText phrase payload).pattern.find? line) ∧
    ∀ pieces : List (List Char),
      ∃ q, NamedPattern.read (String.ofList (writtenLine pieces)) = .ok q ∧
        ∀ line, q.pattern.find? line = (wholeLine pieces).find? line := by
  have hfault : of? (Parser.ofTables? compile t) = (t.faults compile).head? := by
    rw [← Grammar.of?_ofTables?, Parser.ofTables?]
    cases Grammar.ofTables? compile t <;> rfl
  refine ⟨fun fault => ?_, ?_, fun phrase α payload => Phrase.read_written _,
    fun pieces => read_writtenLine pieces⟩
  · rw [← of?_eq_some_iff, hfault]
  · rw [← of?_eq_none_iff, hfault, List.head?_eq_none_iff, ParserTables.faults_eq_nil_iff]

end Tables

end Loadout
