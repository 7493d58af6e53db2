import Loadout.Line.Builtin
import Loadout.Proofs.Line.Faults

/-!
# The built-in tables are accepted

Whether tables are accepted does not depend on the numbers in them, so for every type of numbers
the built-in tables are accepted because they are over the rationals. There it is a computation.

## Main results

* `Form.forall_mem_zip_of_forall₂`: what is tested of pattern texts holds of the forms
* `ParserTables.wellFormed_builtin`: the built-in tables are well-formed
* `ParserTables.exists_grammar_builtin`: they are read
-/

namespace Loadout

/-- Reads the characters of a pattern. -/
def NamedPattern.readChars (cs : List Char) : Except PatternFault NamedPattern := do
  let (p, s) ← (PatternReader.readAlternatives (4 * cs.length + 4)).run ⟨cs, {}, []⟩
  if s.rest.isEmpty then
    return ⟨p, s.names.reverse⟩
  else
    throw .unopenedGroup

theorem NamedPattern.read_ofList (cs : List Char) : read (String.ofList cs) = readChars cs := by
  rw [read, String.toList_ofList]
  rfl

/-- Whether characters are read as a pattern that passes a test. -/
def readsAs (test : NamedPattern → Bool) (cs : List Char) : Bool :=
  match NamedPattern.readChars cs with
  | .ok pattern => test pattern
  | .error _ => false

theorem readsAs_iff {test : NamedPattern → Bool} {cs : List Char} :
    readsAs test cs = true ↔
      ∃ pattern, NamedPattern.read (String.ofList cs) = .ok pattern ∧ test pattern = true := by
  rw [NamedPattern.read_ofList, readsAs]
  cases NamedPattern.readChars cs <;> simp

/-- The characters of a pattern, with a group in the place of each `#`. -/
def expandedChars (pattern : String) : List Char :=
  expandNumbers 0 (Text.pieces (· == '#') pattern.toList)

namespace Form

variable {ν : Type}

theorem compile_of_ofRow? {compile : PatternCompiler} {row : FormRow ν} {f : Form ν}
    (h : ofRow? compile row = .ok f) : compile row.expanded = .ok f.pattern := by
  unfold ofRow? at h
  split at h
  · cases h
  · split at h
    case h_1 pattern hcompile =>
      cases h
      exact hcompile
    case h_2 => cases h

/-- Forms pass the tests that the patterns of their rows pass. -/
theorem forall_mem_zip_of_forall₂ {rows : List (FormRow ν)} {forms : List (Form ν)}
    (h : List.Forall₂ (fun row form => ofRow? NamedPattern.compile row = .ok form) rows forms)
    {tests : List (NamedPattern → Bool)}
    (htests : (((rows.map FormRow.pattern).map expandedChars).zip tests).all
      (fun entry => readsAs entry.2 entry.1) = true) :
    ∀ entry ∈ forms.zip tests,
      ∃ pattern : NamedPattern, entry.1.pattern = pattern.compiled ∧ entry.2 pattern = true := by
  induction h generalizing tests with
  | nil => simp
  | @cons row form rows forms hrow _ ih =>
    cases tests with
    | nil => simp
    | cons test tests =>
      simp only [List.map_cons, List.zip_cons_cons, List.all_cons, Bool.and_eq_true] at htests
      obtain ⟨pattern, hread, htest⟩ := readsAs_iff.1 htests.1
      obtain ⟨pattern', hread', hsame⟩ :=
        NamedPattern.compile_eq_ok_iff.1 (compile_of_ofRow? hrow)
      obtain rfl : pattern = pattern' := Except.ok.inj (hread.symm.trans hread')
      rw [List.zip_cons_cons, List.forall_mem_cons]
      exact ⟨⟨pattern, hsame.symm, htest⟩, ih htests.2⟩

end Form

namespace ParserTables

/-- The patterns of the built-in forms. -/
def builtinPatterns : List String :=
  (builtinForms (ν := Rat)).map FormRow.pattern

/-- The patterns of the built-in forms, with a group in the place of each `#`. -/
def builtinTexts : List (List Char) :=
  builtinPatterns.map expandedChars

theorem builtinTexts_checked : builtinTexts.all (readsAs fun _ => true) = true := by
  decide +kernel

theorem builtinStats_checked :
    (builtinStats.flatMap fun row => flagFaults row.flags row.keywords) = [] := by
  decide +kernel

theorem builtinFlags_checked :
    (builtinFlags.flatMap fun row => flagFaults row.flags row.keywords) = [] := by
  decide +kernel

theorem builtinFlags_ne_empty : ∀ row ∈ builtinFlags, Text.normal row.phrase ≠ "" := by
  decide +kernel

theorem builtinConditions_checked :
    (builtinConditions (ν := Rat)).flatMap ConditionRow.faults = [] := by
  decide +kernel

theorem builtinKnown_checked : (builtinKnown (ν := Rat)).flatMap KnownRow.faults = [] := by
  decide +kernel

variable {ν : Type} [Scalar ν]

theorem map_pattern_builtinForms : (builtinForms (ν := ν)).map FormRow.pattern = builtinPatterns :=
  rfl

theorem builtinForms_say_kind :
    ((builtinForms (ν := ν)).all fun row => row.kind.isSome || row.displayOnly) = true :=
  rfl

/-- The built-in tables are well-formed. -/
theorem wellFormed_builtin : (builtin : ParserTables ν).WellFormed NamedPattern.compile := by
  have hforms : (builtinForms (ν := ν)).flatMap (FormRow.faults NamedPattern.compile) = [] := by
    rw [List.flatMap_eq_nil_iff]
    intro row hrow
    have htext : expandedChars row.pattern ∈ builtinTexts :=
      List.mem_map_of_mem (map_pattern_builtinForms (ν := ν) ▸ List.mem_map_of_mem hrow)
    obtain ⟨pattern, hread, -⟩ := readsAs_iff.1 (List.all_eq_true.1 builtinTexts_checked _ htext)
    have hkind : row.kind ≠ none ∨ row.displayOnly = true := by
      have hchecked := List.all_eq_true.1 (builtinForms_say_kind (ν := ν)) row hrow
      rwa [Bool.or_eq_true, Option.isSome_iff_ne_none] at hchecked
    exact FormRow.faults_eq_nil_iff.2
      ⟨hkind, pattern.compiled, NamedPattern.compile_eq_ok_iff.2 ⟨pattern, hread, rfl⟩⟩
  have hconditions : (builtinConditions (ν := ν)).flatMap ConditionRow.faults = [] :=
    builtinConditions_checked
  have hknown : (builtinKnown (ν := ν)).flatMap KnownRow.faults = [] := builtinKnown_checked
  rw [← faults_eq_nil_iff, faults, builtin, hforms, builtinStats_checked, builtinFlags_checked,
    hconditions, hknown]
  rfl

/-- The built-in tables are read. -/
theorem exists_grammar_builtin :
    ∃ g : Grammar ν, Grammar.ofTables? NamedPattern.compile .builtin = .ok g :=
  wellFormed_builtin.exists_grammar

end ParserTables

end Loadout
