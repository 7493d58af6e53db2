import Loadout.Proofs.Line.Exhaustion

/-!
# The four outcomes of a line

How completely a line was understood says what else its outcome holds. Only one part of this is not
built into the outcomes: what is understood in part must have a modifier that the warning is about.
It has one because a form that produces anything gives a modifier for each of its templates, of
which there is always one, and because only forms warn.

A line is not understood when it is empty, when nothing matches it, or when the form that decides it
is to name a stat and has none. The last is said by the form's row and by its match alone: the words
of a stat group always come to a stat where they are read.

## Main definitions

* `Outcome.Coherent`: what an outcome holds for each level of support
* `FormRow.Lacks`: a form that is to name a stat and has none

## Main results

* `Grammar.ofForm_cases`: what a form makes of a line
* `Grammar.support_interpret_eq_unsupported_iff`: when a line is not understood
* `Grammar.coherent_parse`: the outcomes of all lines
-/

namespace Loadout

variable {ν : Type}

/-! ### Outcomes -/

namespace Outcome

/-- What an outcome holds, by how completely the line was understood. -/
def Coherent (o : Outcome ν) : Prop :=
  match o.support with
  | .unsupported => o.success = false ∧ o.reason.isSome ∧ o.modifiers = [] ∧ o.warnings = []
  | .displayOnly => o.success = true ∧ o.reason = none ∧ o.modifiers = [] ∧ o.warnings = []
  | .full => o.success = true ∧ o.reason = none ∧ o.warnings = []
  | .partly => o.success = true ∧ o.reason = none ∧ o.warnings ≠ [] ∧ o.modifiers ≠ []

/-- All that is not built into outcomes is that a warning comes with a modifier. -/
theorem coherent_iff {o : Outcome ν} : o.Coherent ↔ (o.warnings ≠ [] → o.modifiers ≠ []) := by
  cases o with
  | unsupported reason => simp [Coherent, support, success, Outcome.reason, modifiers, warnings]
  | displayOnly => simp [Coherent, support, success, reason, modifiers, warnings]
  | produced ms ws =>
    cases ws <;> simp [Coherent, support, success, reason, modifiers, warnings]

theorem warnings_stamp (o : Outcome ν) (ctx : LineContext) (isLocal : Bool) :
    (o.stamp ctx isLocal).warnings = o.warnings := by
  cases o <;> rfl

theorem support_produced_ne (ms : List (Modifier ν)) (ws : List String) :
    (produced ms ws).support ≠ .unsupported := by
  cases ws <;> simp [support]

theorem Coherent.stamp {o : Outcome ν} (h : o.Coherent) (ctx : LineContext) (isLocal : Bool) :
    (o.stamp ctx isLocal).Coherent := by
  rw [coherent_iff, warnings_stamp, Grammar.modifiers_stamp, ne_eq (List.map _ _),
    List.map_eq_nil_iff]
  exact coherent_iff.1 h

end Outcome

/-- A form of a kind is to name a stat by one of its templates and has none: it has captured no
words for one, or is of a list and does not read them. -/
def FormRow.Lacks (row : FormRow ν) (kind : Kind) (stat : Option (List Char)) : Prop :=
  (∃ template ∈ row.templates, NamesStat template) ∧ (kind = Kind.list ∨ stat = none)

namespace Grammar

variable [Scalar ν] {g : Grammar ν}
  {take : List Char → Option (List (Found ν FlagMeaning) × List Char)} {line : String}
  {i : Interpretation ν}

/-! ### Forms -/

section Forms

variable {form : Form ν} {m : FormMatch ν}

/-- A form recognises its line, or lacks a stat to name, or gives a modifier of its kind for each of
its templates. -/
theorem ofForm?_cases (h : g.ofForm? take line form m = some i) :
    (form.row.produced? = none ∧ i.outcome = .displayOnly) ∨
    ∃ kind, form.row.produced? = some kind ∧
      ((form.row.Lacks kind m.stat ∧ ∃ reason, i.outcome = .unsupported reason) ∨
        (¬ form.row.Lacks kind m.stat ∧ ∃ modifiers warnings,
          i.outcome = .produced modifiers warnings ∧
            modifiers.length = form.row.templates.length ∧ ∀ n ∈ modifiers, n.kind = kind)) := by
  rw [ofForm?] at h
  cases hproduced : form.row.produced? with
  | none =>
    rw [hproduced] at h
    cases h
    exact .inl ⟨rfl, rfl⟩
  | some kind =>
    rw [hproduced] at h
    obtain ⟨reading, hreading, rfl⟩ := Option.map_eq_some_iff.1 h
    refine .inr ⟨kind, rfl, ?_⟩
    rw [FormRow.Lacks, ← stat_eq_none_iff_of_groupReading? hreading]
    rcases outcome_ofReading line form m kind reading with
      ⟨hnames, hstat, hreason⟩ | ⟨hlacks, modifiers, hmodifiers⟩
    · exact .inl ⟨⟨hnames, hstat⟩, hreason⟩
    · exact .inr ⟨hlacks, modifiers, _, hmodifiers⟩

theorem support_eq_unsupported_iff_of_ofForm? (h : g.ofForm? take line form m = some i) :
    i.outcome.support = .unsupported ↔
      ∃ kind, form.row.produced? = some kind ∧ form.row.Lacks kind m.stat := by
  rcases ofForm?_cases h with ⟨hnone, houtcome⟩ |
    ⟨kind, hkind, ⟨hlacks, reason, houtcome⟩ | ⟨hlacks, modifiers, warnings, houtcome, -⟩⟩
  · simp [houtcome, hnone, Outcome.support]
  · simp [houtcome, hkind, hlacks, Outcome.support]
  · simp [houtcome, hkind, hlacks, Outcome.support_produced_ne modifiers warnings]

theorem modifiers_of_ofForm? (h : g.ofForm? take line form m = some i)
    (hsupport : i.outcome.support ∈ [Support.full, Support.partly]) :
    i.outcome.modifiers.length = form.row.templates.length ∧
      ∀ n ∈ i.outcome.modifiers, form.row.kind = some n.kind := by
  rcases ofForm?_cases h with ⟨-, houtcome⟩ |
    ⟨kind, hkind, ⟨-, reason, houtcome⟩ | ⟨-, modifiers, warnings, houtcome, hlength, hkinds⟩⟩
  · simp [houtcome, Outcome.support] at hsupport
  · simp [houtcome, Outcome.support] at hsupport
  · rw [houtcome]
    refine ⟨hlength, fun n hn => ?_⟩
    rw [hkinds n hn]
    exact FormRow.kind_of_produced? hkind

theorem coherent_of_ofForm? (h : g.ofForm? take line form m = some i) : i.outcome.Coherent := by
  rw [Outcome.coherent_iff]
  rcases ofForm?_cases h with ⟨-, houtcome⟩ |
    ⟨kind, -, ⟨-, reason, houtcome⟩ | ⟨-, modifiers, warnings, houtcome, hlength, -⟩⟩
  · simp [houtcome, Outcome.warnings]
  · simp [houtcome, Outcome.warnings]
  · intro _
    rw [FormRow.length_templates] at hlength
    rw [houtcome]
    exact List.ne_nil_of_length_pos (show 0 < modifiers.length by omega)

end Forms

/-! ### Lines -/

theorem understood_of_ofKnown? {hit : KnownHit ν} (h : ofKnown? take line hit = some i) :
    i.outcome.Coherent ∧ i.outcome.support ≠ .unsupported := by
  rw [ofKnown?] at h
  split at h
  · cases h
    simp [Outcome.coherent_iff, Outcome.warnings, Outcome.support]
  · obtain ⟨cut, -, rfl⟩ := Option.map_eq_some_iff.1 h
    simp [Outcome.coherent_iff, Outcome.warnings, Outcome.support]

theorem coherent_of_interpret? (h : g.interpret? line = some i) : i.outcome.Coherent := by
  rw [interpret?] at h
  rcases g.interpretBy?_cases g.flags.takeAll? line with
    ⟨hit, -, heq⟩ | ⟨-, -, heq⟩ | ⟨form, m, hdecides⟩
  · exact (understood_of_ofKnown? (heq.symm.trans h)).1
  · obtain rfl := Option.some.inj (heq.symm.trans h)
    simp [Outcome.coherent_iff, Outcome.warnings]
  · rw [hdecides.interpretBy?_eq] at h
    exact coherent_of_ofForm? h

/-- A line is not understood when nothing matches it, or when the form that decides it lacks a stat
to name. -/
theorem support_eq_unsupported_iff_of_interpret? (h : g.interpret? line = some i) :
    i.outcome.support = .unsupported ↔
      (g.known.lookup? line = none ∧ ∀ form ∈ g.forms, form.pattern.find? line.toList = none) ∨
      ∃ form m kind, g.Decides line form m ∧ form.row.produced? = some kind ∧
        form.row.Lacks kind (form.yield m).stat := by
  rw [interpret?] at h
  constructor
  · intro hsupport
    rcases g.interpretBy?_cases g.flags.takeAll? line with
      ⟨hit, -, heq⟩ | ⟨hknown, hforms, -⟩ | ⟨form, m, hdecides⟩
    · exact absurd hsupport (understood_of_ofKnown? (heq.symm.trans h)).2
    · exact .inl ⟨hknown, hforms⟩
    · rw [hdecides.interpretBy?_eq] at h
      obtain ⟨kind, hkind, hlacks⟩ := (support_eq_unsupported_iff_of_ofForm? h).1 hsupport
      exact .inr ⟨form, m, kind, hdecides, hkind, hlacks⟩
  · rintro (⟨hknown, hforms⟩ | ⟨form, m, kind, hdecides, hkind, hlacks⟩)
    · obtain rfl := Option.some.inj ((interpretBy?_of_forall_none hknown hforms).symm.trans h)
      rfl
    · rw [hdecides.interpretBy?_eq] at h
      exact (support_eq_unsupported_iff_of_ofForm? h).2 ⟨kind, hkind, hlacks⟩

/-- In accepted tables, a line at a place has no outcome exactly when its reading cuts flags and
there is an empty flag phrase. Every outcome holds what its level of support says. The line is not
understood when it is empty, when no known line and no form matches it, or when the form that
decides it produces modifiers of a kind and lacks a stat to name. Where that form understands it in
full or in part, there is a modifier for each of its outputs, or one if it has none, and all are of
the form's kind. -/
theorem coherent_parse {compile : PatternCompiler} {t : ParserTables ν}
    (ht : ofTables? compile t = .ok g) (text : String) (ctx : LineContext) :
    (g.parse? text ctx = none ↔ Text.normal text ≠ "" ∧ g.ReachesFlags (Text.normal text) ∧
      ∃ row ∈ t.flags, Text.normal row.phrase = "") ∧
    ∀ o, g.parse? text ctx = some o →
      o.Coherent ∧
      (o.support = .unsupported ↔ Text.normal text = "" ∨
        (g.known.lookup? (Text.normal text) = none ∧
          ∀ form ∈ g.forms, form.pattern.find? (Text.normal text).toList = none) ∨
        ∃ form m kind, g.Decides (Text.normal text) form m ∧ form.row.produced? = some kind ∧
          form.row.Lacks kind (form.yield m).stat) ∧
      ∀ form m, g.Decides (Text.normal text) form m →
        o.support ∈ [Support.full, Support.partly] →
        o.modifiers.length = max 1 form.row.outputs.length ∧
          ∀ n ∈ o.modifiers, form.row.kind = some n.kind := by
  refine ⟨parse?_eq_none_iff.trans (by rw [exists_empty_flag_iff ht]), fun o ho => ?_⟩
  rw [parse?] at ho
  by_cases hline : Text.normal text = ""
  · rw [parseBy?_of_eq_empty hline] at ho
    obtain rfl := Option.some.inj ho
    simp [hline, Outcome.coherent_iff, Outcome.warnings, Outcome.support]
  · rw [parseBy?_eq hline] at ho
    obtain ⟨i, hi, rfl⟩ := Option.map_eq_some_iff.1 ho
    rw [support_stamp, support_eq_unsupported_iff_of_interpret? hi, modifiers_stamp]
    refine ⟨(coherent_of_interpret? hi).stamp ctx _, by simp [hline], ?_⟩
    intro form m hdecides hsupport
    rw [hdecides.interpretBy?_eq] at hi
    obtain ⟨hlength, hkinds⟩ := modifiers_of_ofForm? hi hsupport
    rw [List.length_map, hlength, FormRow.length_templates]
    refine ⟨rfl, fun n hn => ?_⟩
    obtain ⟨source, hsource, rfl⟩ := List.mem_map.1 hn
    exact hkinds source hsource

/-- A line that these tables accept is read without end. -/
theorem parse?_dotted :
    ∃ g, ofTables? NamedPattern.compile dotted = .ok g ∧ g.parse? "Has Life" {} = none ∧
      ∀ rounds, g.parseBy? (g.flags.takeWithin? rounds) "Has Life" {} = none := by
  obtain ⟨g, hg, -, hnone⟩ := exists_parse?_dotted_eq_none
  exact ⟨g, hg, hnone, parseBy?_eq_none hnone⟩

/-- A form with two outputs gives two modifiers of its kind. -/
theorem coherent_parse_cold :
    ∃ g o, ofTables? NamedPattern.compile coldAdds = .ok g ∧
      g.parse? "Adds 3 to 7 Cold Damage" {} = some o ∧ o.support = .full ∧
      o.modifiers.length = 2 ∧ ∀ n ∈ o.modifiers, n.kind = .base := by
  have hline : Text.normal "Adds 3 to 7 Cold Damage" = "adds 3 to 7 cold damage" := by
    decide +kernel
  obtain ⟨g, form, m, hg, hdecides, hread⟩ := exists_decides
    NamedPattern.compile (t := coldAdds) rfl rfl "adds 3 to 7 cold damage"
    (P := fun g form m => form.row.kind = some .base ∧ form.row.outputs.length = 2 ∧
      ((g.ofForm? g.flags.takeAll? "adds 3 to 7 cold damage" form (form.yield m)).any
        fun i => i.outcome.support = .full) = true)
    (by decide +kernel)
  obtain ⟨hkind, houtputs, hread⟩ := of_decide_eq_true hread
  obtain ⟨i, hi, hfull⟩ := (Option.any_eq_true _ _).1 hread
  rw [← hline] at hdecides hi
  have hparse : g.parse? "Adds 3 to 7 Cold Damage" {} = some (i.outcome.stamp {} i.isLocal) := by
    rw [hdecides.parse?_eq (by rw [hline]; decide), hi, Option.map_some]
  have hsupport : (i.outcome.stamp {} i.isLocal).support = .full := by
    rw [support_stamp, of_decide_eq_true hfull]
  obtain ⟨hlength, hkinds⟩ := ((coherent_parse hg "Adds 3 to 7 Cold Damage" {}).2 _ hparse).2.2
    form m hdecides (by simp [hsupport])
  refine ⟨g, _, hg, hparse, hsupport, by rw [hlength, houtputs]; rfl, fun n hn => ?_⟩
  exact Option.some.inj ((hkinds n hn).symm.trans hkind)

end Grammar

end Loadout
