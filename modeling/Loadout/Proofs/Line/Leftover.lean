import Loadout.Proofs.Line.Exhaustion

/-!
# Nothing in the words of a stat is lost

The words that name a stat are read in three passes: one condition is cut out of them, then one
stat, then all flags. Each pass moves ink out of the text and loses none, so what is not blank in
the words stands in one of the occurrences that were cut out or in what remains after the last
pass. Of what remains only fillers are passed over. Any other word is reported, and so is the lack
of a stat.

A form with a stat group is therefore fully supported only if a stat was found and no word but
fillers was left, except for a form of a list, which never reads the group.

The flags are cut without end when there is an empty flag phrase, and then the words come to
nothing.

## Main definitions

* `Grammar.afterCondition`, `Grammar.afterStat`, `Grammar.remaining?`: what each pass leaves
* `Grammar.Passes`: what the passes cut out

## Main results

* `Grammar.Passes.ink_eq`: what is not blank is in an occurrence or remains
* `Grammar.warning_eq_none_iff_of_readStat?`: when nothing is reported
* `Grammar.words_accounted`: both, and what full support of a form says
-/

namespace Loadout

variable {ν : Type}

namespace Grammar

/-! ### The three passes -/

section Passes

variable [Scalar ν] (g : Grammar ν) (words : List Char)

/-- The words of a stat after a condition was cut out of them. -/
def afterCondition : List Char :=
  (g.conditions.takeFirst (ν := ν) words).2

/-- The words of a stat after a condition and the stat were cut out of them. -/
def afterStat : List Char :=
  (g.stats.takeFirst (ν := ν) (g.afterCondition words)).2

/-- What remains of the words of a stat after all passes, if the last one comes to an end. -/
def remaining? : Option (List Char) :=
  (g.flags.takeAll? (ν := ν) (g.afterStat words)).map Prod.snd

/-- The stat that is found in its words. -/
def foundStat? : Option (Found ν StatMeaning) :=
  (g.stats.takeFirst (g.afterCondition words)).1

/-- What the passes over the words of a stat cut out of them, with what they find, and what they
leave. -/
structure Passes (conditions : List (Found ν (Condition ν) × List Char))
    (stats : List (Found ν StatMeaning × List Char))
    (flags : List (Found ν FlagMeaning × List Char)) (rest : List Char) : Prop where
  condition : g.conditions.Cuts words conditions (g.afterCondition words)
  foundCondition : conditions.map Prod.fst = (g.conditions.takeFirst words).1.toList
  stat : g.stats.Cuts (g.afterCondition words) stats (g.afterStat words)
  foundStat : stats.map Prod.fst = (g.foundStat? words).toList
  flag : g.flags.Cuts (g.afterStat words) flags rest
  foundFlags : g.flags.takeAll? (g.afterStat words) = some (flags.map Prod.fst, rest)

variable {g words} {rest : List Char}

theorem exists_passes (h : g.remaining? words = some rest) :
    ∃ conditions stats flags, g.Passes words conditions stats flags rest := by
  obtain ⟨⟨found, _⟩, hfound, rfl⟩ := Option.map_eq_some_iff.1 h
  obtain ⟨conditions, hconditions, hcondition⟩ :=
    PhraseSet.cuts_takeFirst (ν := ν) g.conditions words
  obtain ⟨stats, hstats, hstat⟩ :=
    PhraseSet.cuts_takeFirst (ν := ν) g.stats (g.afterCondition words)
  obtain ⟨flags, hflags, rfl⟩ := PhraseSet.cuts_takeAll? hfound
  exact ⟨conditions, stats, flags, hconditions, hcondition, hstats, hstat, hflags, hfound⟩

section Accounts

variable {conditions : List (Found ν (Condition ν) × List Char)}
  {stats : List (Found ν StatMeaning × List Char)} {flags : List (Found ν FlagMeaning × List Char)}

theorem Passes.length_conditions_le (h : g.Passes words conditions stats flags rest) :
    conditions.length ≤ 1 := by
  rw [← List.length_map, h.foundCondition]
  exact Option.length_toList_le

theorem Passes.length_stats_le (h : g.Passes words conditions stats flags rest) :
    stats.length ≤ 1 := by
  rw [← List.length_map, h.foundStat]
  exact Option.length_toList_le

/-- The ink of the words is that of all occurrences that were cut out, and of what remains. -/
theorem Passes.ink_eq (h : g.Passes words conditions stats flags rest) :
    ink words = (conditions.map fun cut => ink cut.2).sum +
      (stats.map fun cut => ink cut.2).sum + (flags.map fun cut => ink cut.2).sum + ink rest := by
  rw [h.condition.ink_eq, h.stat.ink_eq, h.flag.ink_eq, ← add_assoc, ← add_assoc]

end Accounts

omit [Scalar ν] in
theorem leftover_eq_nil_iff (text : List Char) :
    leftover text = [] ↔ ∀ word ∈ Text.words text, String.ofList word ∈ fillers := by
  have hwords : Text.AllWords ((Text.words text).filter fun word =>
      !fillers.contains (String.ofList word)) :=
    fun word hword => Text.allWords_words text word (List.mem_of_mem_filter hword)
  have hempty : leftover text = [] ↔ ((Text.words text).filter fun word =>
      !fillers.contains (String.ofList word)) = [] := by
    refine ⟨fun h => ?_, fun h => by rw [leftover, h]; rfl⟩
    rw [← Text.words_join hwords]
    exact congrArg Text.words h
  rw [hempty, List.filter_eq_nil_iff]
  simp

theorem readStat?_eq_none_iff :
    g.readStat? g.flags.takeAll? words = none ↔ ∃ p ∈ g.flags.phrases, p.text = "" :=
  ((cutsOnce_cutFlags? (g.afterStat words)).map _).eq_none_iff g.flags

/-- Nothing is reported exactly when a stat was found and all that remains are fillers. -/
theorem warning_eq_none_iff_of_readStat? {r : StatReading ν}
    (h : g.readStat? g.flags.takeAll? words = some r) :
    ∃ rest, g.remaining? words = some rest ∧ (r.warning = none ↔ (g.foundStat? words).isSome ∧
      ∀ word ∈ Text.words rest, String.ofList word ∈ fillers) := by
  obtain ⟨cut, hcut, rfl⟩ := Option.map_eq_some_iff.1 h
  obtain ⟨⟨found, rest⟩, hfound, hsome⟩ := Option.bind_eq_some_iff.1 hcut
  obtain rfl := Option.some.inj hsome
  refine ⟨rest, congrArg (Option.map Prod.snd) hfound, ?_⟩
  rw [← leftover_eq_nil_iff]
  change (reading words _ (g.foundStat? words) (_, _, rest)).warning = none ↔ _
  cases g.foundStat? words <;> simp [reading]

end Passes

/-! ### Forms with a stat group -/

variable [Scalar ν] {g : Grammar ν} {text : String} {form : Form ν} {m : Match}
  {words : List Char}

/-- A line that a form of another kind than a list decides, which has captured words for a stat, is
fully supported exactly when nothing about these words is reported. -/
theorem Decides.parse?_eq_of_ne_list (h : g.Decides (Text.normal text) form m)
    (hline : Text.normal text ≠ "") (hwords : (form.yield m).stat = some words) {kind : Kind}
    (hproduced : form.row.produced? = some kind) (hkind : kind ≠ Kind.list) (ctx : LineContext) :
    (g.parse? text ctx).map Outcome.support =
      (g.readStat? g.flags.takeAll? words).map fun r =>
        if r.warning = none then .full else .partly := by
  rw [h.parse?_eq hline, ofForm?, hproduced]
  simp only [groupReading?, hwords, if_neg hkind, Option.map_map]
  refine Option.map_congr fun r hr => ?_
  rw [Function.comp_apply, Function.comp_apply, support_stamp]
  rcases outcome_ofReading (Text.normal text) form (form.yield m) kind r with
    ⟨-, hnone, -⟩ | ⟨-, modifiers, houtcome, -⟩
  · exact absurd hnone (Option.isSome_iff_ne_none.1 (isSome_stat_of_readStat? hr))
  · rw [houtcome]
    cases r.warning <;> simp [Outcome.support]

/-- A form of a list does not read its words: its line is fully supported unless one of the form's
templates asks for a stat. -/
theorem Decides.exists_parse?_of_list (h : g.Decides (Text.normal text) form m)
    (hline : Text.normal text ≠ "") (hproduced : form.row.produced? = some Kind.list)
    (ctx : LineContext) :
    ∃ o, g.parse? text ctx = some o ∧
      (o.support = .full ↔ ¬ ∃ template ∈ form.row.templates, FormRow.NamesStat template) := by
  have hreading : g.groupReading? g.flags.takeAll? Kind.list (form.yield m).stat = some {} := by
    cases hstat : (form.yield m).stat <;> simp [groupReading?]
  rw [h.parse?_eq hline, ofForm?, hproduced]
  simp only [hreading, Option.map_some, Option.some.injEq, exists_eq_left', support_stamp]
  rcases outcome_ofReading (Text.normal text) form (form.yield m) Kind.list {} with
    ⟨hnames, -, reason, houtcome⟩ | ⟨hlacks, modifiers, houtcome, -⟩
  · rw [houtcome]
    exact iff_of_false (by simp [Outcome.support]) (not_not_intro hnames)
  · rw [houtcome]
    exact iff_of_true rfl fun hnames => hlacks ⟨hnames, rfl⟩

/-- In accepted tables, the words of a stat have no reading exactly when there is an empty flag
phrase. Nothing in them is lost without a report otherwise. What is not blank in them is in the
occurrences that were cut out, of at most one condition, at most one stat and any number of flags,
or in what remains, and nothing is reported exactly when a stat was found and all words that remain
are fillers. So a line that a form decides which has captured such words, and is not of a list, is
fully supported exactly when it produces modifiers, a stat was found and all words that remain are
fillers. A form of a list does not read the words, and its line is fully supported unless a template
asks for a stat. -/
theorem words_accounted {compile : PatternCompiler} {t : ParserTables ν}
    (ht : ofTables? compile t = .ok g) (words : List Char) :
    (g.readStat? g.flags.takeAll? words = none ↔
      ∃ row ∈ t.flags, Text.normal row.phrase = "") ∧
    (∀ r, g.readStat? g.flags.takeAll? words = some r →
      ∃ conditions stats flags rest, g.Passes words conditions stats flags rest ∧
        g.remaining? words = some rest ∧ conditions.length ≤ 1 ∧ stats.length ≤ 1 ∧
        ink words = (conditions.map fun cut => ink cut.2).sum +
          (stats.map fun cut => ink cut.2).sum + (flags.map fun cut => ink cut.2).sum +
          ink rest ∧
        (r.warning = none ↔ (g.foundStat? words).isSome ∧
          ∀ word ∈ Text.words rest, String.ofList word ∈ fillers)) ∧
    ∀ (text : String) (form : Form ν) (m : Match) (ctx : LineContext),
      g.Decides (Text.normal text) form m → Text.normal text ≠ "" →
      (form.yield m).stat = some words →
      (form.row.kind ≠ some Kind.list →
        (g.parse? text ctx = none ↔
          form.row.produced?.isSome ∧ ∃ row ∈ t.flags, Text.normal row.phrase = "") ∧
        ∀ o, g.parse? text ctx = some o →
          (o.support = .full ↔ form.row.produced?.isSome ∧ (g.foundStat? words).isSome ∧
            ∃ rest, g.remaining? words = some rest ∧
              ∀ word ∈ Text.words rest, String.ofList word ∈ fillers)) ∧
      (form.row.produced? = some Kind.list → ∃ o, g.parse? text ctx = some o ∧
        (o.support = .full ↔
          ¬ ∃ template ∈ form.row.templates, FormRow.NamesStat template)) := by
  have hempty : g.readStat? g.flags.takeAll? words = none ↔
      ∃ row ∈ t.flags, Text.normal row.phrase = "" :=
    readStat?_eq_none_iff.trans (exists_empty_flag_iff ht)
  refine ⟨hempty, fun r hr => ?_, fun text form m ctx hdecides hline hwords =>
    ⟨fun hkind => ?_, fun hproduced => hdecides.exists_parse?_of_list hline hproduced ctx⟩⟩
  · obtain ⟨rest, hrest, hwarning⟩ := warning_eq_none_iff_of_readStat? hr
    obtain ⟨conditions, stats, flags, h⟩ := exists_passes hrest
    exact ⟨conditions, stats, flags, rest, h, hrest, h.length_conditions_le, h.length_stats_le,
      h.ink_eq, hwarning⟩
  · cases hproduced : form.row.produced? with
    | none =>
      rw [hdecides.parse?_eq hline, ofForm?, hproduced]
      refine ⟨by simp, fun o ho => ?_⟩
      rw [← Option.some.inj ho, support_stamp]
      simp [Outcome.support]
    | some kind =>
      have hlist : kind ≠ Kind.list := by
        rintro rfl
        exact hkind (FormRow.kind_of_produced? hproduced)
      have hsupport := hdecides.parse?_eq_of_ne_list hline hwords hproduced hlist ctx
      refine ⟨?_, fun o ho => ?_⟩
      · rw [← Option.map_eq_none_iff (f := Outcome.support), hsupport, Option.map_eq_none_iff,
          hempty]
        simp
      · rw [ho] at hsupport
        obtain ⟨r, hr, hfull⟩ := Option.map_eq_some_iff.1 hsupport.symm
        obtain ⟨rest, hrest, hwarning⟩ := warning_eq_none_iff_of_readStat? hr
        rw [← hfull, hrest]
        simp [← hwarning]

/-- Tables with one stat, and one form with a group for a stat and a group for an entry. -/
def granting (kind : Kind) : ParserTables Rat where
  forms := [
    { id := "grants"
      pattern := "^grants (?P<entry>[a-z]+) with (?P<stat>.+)$"
      kind := some kind
      scale := 1
      outputs := ["ExtraSkill"] }]
  stats := [{ phrase := "life", stat := "Life" }]

/-- A line with a stat and fillers is fully supported. -/
theorem words_accounted_granting :
    ∃ (g : Grammar Rat) (form : Form Rat) (m : Match) (o : Outcome Rat),
      ofTables? NamedPattern.compile (granting .flag) = .ok g ∧
      g.Decides "grants aura with life for you" form m ∧
      (form.yield m).stat = some "life for you".toList ∧
      g.parse? "Grants Aura with Life for You" {} = some o ∧ o.support = .full ∧
      ∃ conditions stats flags rest,
        g.Passes "life for you".toList conditions stats flags rest := by
  have hline : Text.normal "Grants Aura with Life for You" = "grants aura with life for you" := by
    decide +kernel
  obtain ⟨g, form, m, hg, hdecides, hread⟩ := exists_decides
    NamedPattern.compile (t := granting .flag) rfl rfl
    "grants aura with life for you"
    (P := fun g form m => form.row.kind = some .flag ∧ form.row.produced?.isSome ∧
      (form.yield m).stat = some "life for you".toList ∧
      (g.foundStat? "life for you".toList).isSome ∧
      (g.remaining? "life for you".toList).any fun rest =>
        (Text.words rest).all fun word => fillers.contains (String.ofList word))
    (by decide +kernel)
  obtain ⟨hkind, hproduced, hwords, hstat, hfillers⟩ := of_decide_eq_true hread
  obtain ⟨rest, hrest, hfillers⟩ := (Option.any_eq_true _ _).1 hfillers
  obtain ⟨hreads, haccounts, hforms⟩ := words_accounted hg "life for you".toList
  obtain ⟨hends, hfull⟩ := (hforms "Grants Aura with Life for You" form m {} (hline ▸ hdecides)
    (by rw [hline]; decide) hwords).1 (by rw [hkind]; decide)
  have hphrases : ¬ ∃ row ∈ (granting .flag).flags, Text.normal row.phrase = "" := by
    rintro ⟨row, hrow, -⟩
    cases hrow
  obtain ⟨o, ho⟩ := Option.ne_none_iff_exists'.1 (mt hends.1 fun h => hphrases h.2)
  obtain ⟨r, hr⟩ := Option.ne_none_iff_exists'.1 (mt hreads.1 hphrases)
  obtain ⟨conditions, stats, flags, rest', hpasses, -⟩ := haccounts r hr
  have hsupport : o.support = .full :=
    (hfull o ho).2 ⟨hproduced, hstat, rest, hrest, fun word hword =>
      List.contains_iff_mem.1 (List.all_eq_true.1 hfillers word hword)⟩
  exact ⟨g, form, m, o, hg, hdecides, hwords, ho, hsupport, conditions, stats, flags, rest',
    hpasses⟩

/-- A form of a list does not read the words that its stat group has captured: its line is fully
supported although there is no stat in them and no filler. -/
theorem support_granting_list :
    ∃ (g : Grammar Rat) (form : Form Rat) (m : Match) (o : Outcome Rat),
      ofTables? NamedPattern.compile (granting .list) = .ok g ∧
      g.Decides "grants aura with xyzzy" form m ∧
      (form.yield m).stat = some "xyzzy".toList ∧
      g.parse? "Grants Aura with Xyzzy" {} = some o ∧ o.support = .full ∧
      g.foundStat? "xyzzy".toList = none ∧
      (g.remaining? "xyzzy".toList).map Text.words = some ["xyzzy".toList] ∧
      "xyzzy" ∉ fillers := by
  have hline : Text.normal "Grants Aura with Xyzzy" = "grants aura with xyzzy" := by
    decide +kernel
  obtain ⟨g, form, m, hg, hdecides, hread⟩ := exists_decides
    NamedPattern.compile (t := granting .list) rfl rfl "grants aura with xyzzy"
    (P := fun g form m => (form.yield m).stat = some "xyzzy".toList ∧
      ((g.ofForm? g.flags.takeAll? "grants aura with xyzzy" form (form.yield m)).any
        fun i => i.outcome.support = .full) = true ∧
      (g.foundStat? "xyzzy".toList).isNone ∧
      (g.remaining? "xyzzy".toList).map Text.words = some ["xyzzy".toList])
    (by decide +kernel)
  obtain ⟨hwords, hread, hstat, hremaining⟩ := of_decide_eq_true hread
  obtain ⟨i, hi, hfull⟩ := (Option.any_eq_true _ _).1 hread
  rw [← hline] at hi
  refine ⟨g, form, m, i.outcome.stamp {} i.isLocal, hg, hdecides, hwords, ?_,
    by rw [support_stamp, of_decide_eq_true hfull], Option.isNone_iff_eq_none.1 hstat, hremaining,
    by decide⟩
  rw [(hline ▸ hdecides : g.Decides (Text.normal _) form m).parse?_eq (by rw [hline]; decide), hi,
    Option.map_some]

end Grammar

end Loadout
