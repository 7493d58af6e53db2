import Loadout.Proofs.Line.Placeholders

/-!
# How a line comes to its outcome

A line that no known line answers is decided by the first form that matches. A form that produces
modifiers fills its templates with the stat that its group names and with its other groups. It
fails to do so exactly when one of its templates asks for a stat and there is none, and it gives
one modifier for each template otherwise. The stat comes from the words of the group `stat`, by
three passes over them; a form of a list does not read these words.

## Main definitions

* `FormRow.NamesStat`: a template that asks for the stat of the line
* `Grammar.Decides`: the form that decides a line

## Main results

* `Grammar.stat_eq_none_iff_of_groupReading?`: when the group of a form names no stat
* `Grammar.outcome_ofReading`: what a producing form comes to
* `Grammar.interpretBy?_cases`: what decides a line
-/

namespace Loadout

variable {ν : Type}

/-! ### Templates -/

namespace FormRow

theorem kind_of_produced? {row : FormRow ν} {kind : Kind} (h : row.produced? = some kind) :
    row.kind = some kind :=
  (Option.filter_eq_some_iff.1 h).1

theorem length_templates (row : FormRow ν) :
    row.templates.length = max 1 row.outputs.length := by
  rw [templates]
  cases row.outputs with
  | nil => rfl
  | cons output outputs => simp

/-- A template asks for the stat of the line. -/
def NamesStat (template : String) : Prop :=
  statTemplate.toList <:+: template.toList

end FormRow

namespace Text

theorem occurs_iff {part text : List Char} : occurs part text = true ↔ part <:+: text := by
  induction text with
  | nil => rw [occurs, List.isEmpty_iff, List.infix_nil]
  | cons c text ih =>
    rw [occurs, Bool.or_eq_true, List.isPrefixOf_iff_prefix, ih, List.infix_cons_iff]

theorem fill_eq_none_iff {template : String} {stat : Option String}
    {groups : List (String × List Char)} :
    fill template stat groups = none ↔ FormRow.NamesStat template ∧ stat = none := by
  have hplaceholder : placeholder "stat".toList = statTemplate.toList := rfl
  rw [fill, FormRow.NamesStat, ← occurs_iff, hplaceholder]
  cases occurs statTemplate.toList template.toList <;> simp

end Text

namespace Grammar

variable [Scalar ν] {g : Grammar ν}
  {take : List Char → Option (List (Found ν FlagMeaning) × List Char)}

/-! ### The words of a stat -/

theorem isSome_stat_of_readStat? {words : List Char} {r : StatReading ν}
    (h : g.readStat? take words = some r) : r.stat.isSome := by
  obtain ⟨cut, -, rfl⟩ := Option.map_eq_some_iff.1 h
  dsimp only [reading]
  split <;> rfl

/-- There is no stat when the form is of a list or has captured no words. -/
theorem stat_eq_none_iff_of_groupReading? {kind : Kind} {stat : Option (List Char)}
    {r : StatReading ν} (h : g.groupReading? take kind stat = some r) :
    r.stat = none ↔ kind = Kind.list ∨ stat = none := by
  cases stat with
  | none =>
    cases h
    simp
  | some words =>
    rw [groupReading?] at h
    split at h
    case isTrue hkind =>
      cases h
      simp [hkind]
    case isFalse hkind =>
      have hstat := Option.isSome_iff_ne_none.1 (isSome_stat_of_readStat? h)
      simp [hstat, hkind]

/-! ### Forms -/

/-- A producing form comes to no modifiers exactly when one of its templates asks for a stat and
there is none. Otherwise it gives a modifier of its kind for each template, and the warning of its
stat group. -/
theorem outcome_ofReading (line : String) (form : Form ν) (m : FormMatch ν) (kind : Kind)
    (reading : StatReading ν) :
    ((∃ template ∈ form.row.templates, FormRow.NamesStat template) ∧ reading.stat = none ∧
      ∃ reason, (ofReading line form m kind reading).outcome = .unsupported reason) ∨
    (¬ ((∃ template ∈ form.row.templates, FormRow.NamesStat template) ∧ reading.stat = none) ∧
      ∃ modifiers : List (Modifier ν),
        (ofReading line form m kind reading).outcome =
          .produced modifiers reading.warning.toList ∧
        modifiers.length = form.row.templates.length ∧ ∀ n ∈ modifiers, n.kind = kind) := by
  rw [ofReading]
  cases hnames : form.row.templates.mapM fun template =>
      Text.fill template reading.stat m.groups with
  | none =>
    obtain ⟨template, htemplate, hfill⟩ := mapM_eq_none_iff.1 hnames
    obtain ⟨hasks, hstat⟩ := Text.fill_eq_none_iff.1 hfill
    exact .inl ⟨⟨template, htemplate, hasks⟩, hstat, _, rfl⟩
  | some names =>
    refine .inr ⟨?_, _, rfl, ?_, ?_⟩
    · rintro ⟨⟨template, htemplate, hasks⟩, hstat⟩
      have hfill : Text.fill template reading.stat m.groups = none :=
        Text.fill_eq_none_iff.2 ⟨hasks, hstat⟩
      rw [mapM_eq_none_iff.2 ⟨template, htemplate, hfill⟩] at hnames
      cases hnames
    · rw [List.length_map, List.length_zipIdx, (mapM_eq_some_iff.1 hnames).length_eq]
    · intro n hn
      obtain ⟨entry, -, rfl⟩ := List.mem_map.1 hn
      rfl

/-! ### Lines -/

variable {line : String} {form : Form ν} {m : Match}

/-- No known line answers a line, and a form is the first that matches it. -/
structure Decides (g : Grammar ν) (line : String) (form : Form ν) (m : Match) : Prop where
  known : g.known.lookup? line = none
  first : IsFirst (fun f : Form ν => (f.pattern.find? line.toList).isSome) g.forms form
  found : form.pattern.find? line.toList = some m

theorem Decides.interpretBy?_eq (h : g.Decides line form m) :
    g.interpretBy? take line = g.ofForm? take line form (form.yield m) :=
  interpretBy?_of_isFirst h.known h.found h.first

theorem interpretBy?_of_forall_none (hknown : g.known.lookup? line = none)
    (hforms : ∀ form ∈ g.forms, form.pattern.find? line.toList = none) :
    g.interpretBy? take line = some { outcome := .unsupported "no matching pattern" } := by
  have hnone : (g.forms.findSome? fun form => (form.match? line.toList).map (form, ·)) =
      none := by
    refine List.findSome?_eq_none_iff.2 fun form hmem => ?_
    rw [Form.match?, hforms form hmem]
    rfl
  rw [interpretBy?, hknown, hnone]

/-- A line is answered by a known line, or matched by no form, or decided by one. -/
theorem interpretBy?_cases (g : Grammar ν)
    (take : List Char → Option (List (Found ν FlagMeaning) × List Char)) (line : String) :
    (∃ hit, g.known.lookup? line = some hit ∧ g.interpretBy? take line = ofKnown? take line hit) ∨
    (g.known.lookup? line = none ∧ (∀ form ∈ g.forms, form.pattern.find? line.toList = none) ∧
      g.interpretBy? take line = some { outcome := .unsupported "no matching pattern" }) ∨
    ∃ form m, g.Decides line form m := by
  cases hknown : g.known.lookup? line with
  | some hit => exact .inl ⟨hit, rfl, by rw [interpretBy?, hknown]⟩
  | none =>
    refine .inr ?_
    cases hform : g.forms.findSome? fun form => (form.match? line.toList).map (form, ·) with
    | none =>
      have hforms (form : Form ν) (hmem : form ∈ g.forms) :
          form.pattern.find? line.toList = none := by
        simpa [Form.match?] using List.findSome?_eq_none_iff.1 hform form hmem
      exact .inl ⟨rfl, hforms, interpretBy?_of_forall_none hknown hforms⟩
    | some found =>
      have hdecided (f : Form ν) (_ : f ∈ g.forms) :
          (f.match? line.toList).map (f, ·) = none ↔ ¬ (f.pattern.find? line.toList).isSome := by
        simp [Form.match?]
      obtain ⟨form, hfirst, -⟩ := (findSome?_eq_some_iff_isFirst hdecided).1 hform
      have hmatch : (form.pattern.find? line.toList).isSome := by
        obtain ⟨-, -, -, hmatch, -⟩ := hfirst
        exact hmatch
      obtain ⟨m, hm⟩ := Option.isSome_iff_exists.1 hmatch
      exact .inr ⟨form, m, hknown, hfirst, hm⟩

theorem Decides.parse?_eq {text : String} (h : g.Decides (Text.normal text) form m)
    (hline : Text.normal text ≠ "") (ctx : LineContext) :
    g.parse? text ctx =
      (g.ofForm? g.flags.takeAll? (Text.normal text) form (form.yield m)).map
        fun i => i.outcome.stamp ctx i.isLocal := by
  rw [parse?, parseBy?_eq hline, h.interpretBy?_eq]

theorem exists_decides (compile : PatternCompiler) {t : ParserTables ν} {row : FormRow ν}
    (hknown : t.known = []) (hforms : t.forms = [row]) (line : String)
    {P : Grammar ν → Form ν → Match → Bool}
    (h : ((ofTables? compile t).toOption.any fun g => g.forms.all fun form =>
      (form.pattern.find? line.toList).any (P g form)) = true) :
    ∃ g form m, ofTables? compile t = .ok g ∧ g.Decides line form m ∧ P g form m = true := by
  obtain ⟨g, form, m, hg, hknown, hfirst, hm, hP⟩ := exists_match compile hknown hforms line h
  exact ⟨g, form, m, hg, ⟨hknown, hfirst, hm⟩, hP⟩

end Grammar

end Loadout
