import Loadout.Line.Grammar
import Loadout.Pattern.Reader
import Loadout.Proofs.Line.Lookup
import Loadout.Proofs.Text.Pieces

/-!
# Which number a modifier of a form carries

The `#` signs of a form stand for numbers, and the modifiers of a form take the numbers of a line
by position. The pattern finds digits of any script while numbers are read from ASCII digits, so a
placeholder can take part in a match and have no value. Such a placeholder is passed over: the
numbers behind it move up by one, and where none is left the last one is taken again. So each
modifier carries the number of its own placeholder when all of them can be read, and what it
carries otherwise is the number of the placeholder that has moved into its position.

## Main definitions

* `Form.written?`, `Form.Legible`: the text at a placeholder, and whether it has a value
* `Form.source?`: the placeholder whose number a modifier takes

## Main results

* `Form.source?_eq_self_iff`: when a modifier takes the number of its own placeholder
* `Grammar.value_of_getElem?_modifiers`: the values of the modifiers of a form
-/

namespace Loadout

/-! ### Placeholders -/

/-- How many numbers the pattern of a row stands for. -/
def FormRow.placeholders {ν : Type} (row : FormRow ν) : Nat :=
  row.pattern.toList.count '#'

namespace Form

variable {ν : Type}

theorem ofRow?_eq_ok {compile : PatternCompiler} {row : FormRow ν} {f : Form ν}
    (h : ofRow? compile row = .ok f) : f.row = row ∧ f.numbers = row.placeholders := by
  unfold ofRow? at h
  split at h
  · cases h
  · split at h
    case h_1 pattern _ =>
      cases h
      refine ⟨rfl, ?_⟩
      rw [Text.length_pieces]
      rfl
    case h_2 => cases h

/-- The text that a match has at a placeholder, if the placeholder takes part. -/
def written? (f : Form ν) (m : Match) (i : Nat) : Option (List Char) :=
  (f.pattern.namedSlots.lookup (numberGroupName i)).bind m.group?

/-- The text at a placeholder has a value. -/
def Legible (f : Form ν) (m : Match) (i : Nat) : Prop :=
  ((f.written? m i).bind Decimal.read?).isSome

instance (f : Form ν) (m : Match) (i : Nat) : Decidable (f.Legible m i) :=
  inferInstanceAs (Decidable (_ = true))

/-- The placeholder whose number the `i`-th modifier takes: the `i`-th of the legible ones, or else
the last of them. -/
def source? (f : Form ν) (m : Match) (i : Nat) : Option Nat :=
  let legible := (List.range f.numbers).filter fun j => f.Legible m j
  legible[i]?.or legible.getLast?

end Form

/-! ### Positions that survive a selection -/

theorem exists_range_eq_append_cons {n i : Nat} (hi : i < n) :
    ∃ rest, List.range n = List.range i ++ i :: rest ∧ ∀ j, j ∈ rest ↔ i < j ∧ j < n := by
  refine ⟨List.range' (i + 1) (n - i - 1), ?_, fun j => ?_⟩
  · rw [← List.range'_succ, List.range_eq_range', List.range_eq_range',
      show n - i - 1 + 1 = n - i by omega]
    have happend : List.range' 0 i ++ List.range' (0 + i) (n - i) = List.range' 0 (i + (n - i)) :=
      List.range'_append_1
    rw [Nat.zero_add, Nat.add_sub_cancel' (Nat.le_of_lt hi)] at happend
    exact happend.symm
  · rw [List.mem_range'_1]
    omega

theorem mem_of_getElem?_or_getLast? {α : Type} {as : List α} {i : Nat} {a : α}
    (h : as[i]?.or as.getLast? = some a) : a ∈ as :=
  (Option.or_eq_some_iff.1 h).elim List.mem_of_getElem? fun h => List.mem_of_getLast? h.2

/-- What stands at a position among the selected members of a range, or else the last of them, is
the position itself exactly when it is selected and all before it are, or none behind it. -/
theorem getElem?_or_getLast?_filter_range {p : Nat → Bool} {n i : Nat} (hi : i < n) :
    (((List.range n).filter p)[i]?.or ((List.range n).filter p).getLast?) = some i ↔
      p i = true ∧ ((∀ j < i, p j = true) ∨ ∀ j, i < j → j < n → p j = false) := by
  obtain ⟨rest, hrange, hrest⟩ := exists_range_eq_append_cons hi
  have hbefore : ((List.range i).filter p).length = i ↔ ∀ j < i, p j = true := by
    have := List.length_filter_eq_length_iff (p := p) (l := List.range i)
    simpa using this
  have hbehind : rest.filter p = [] ↔ ∀ j, i < j → j < n → p j = false := by
    simp [List.filter_eq_nil_iff, hrest]
  have hshort : ((List.range i).filter p).length ≤ i := by
    simpa using List.length_filter_le p (List.range i)
  have hnotMem : i ∉ rest.filter p := fun hmem =>
    Nat.lt_irrefl i ((hrest i).1 (List.mem_filter.1 hmem).1).1
  rw [hrange, ← hbefore, ← hbehind, List.filter_append, List.filter_cons]
  cases hp : p i with
  | false =>
    refine iff_of_false (fun h => ?_) (by simp)
    rcases List.mem_append.1 (mem_of_getElem?_or_getLast? h) with hmem | hmem
    · exact Nat.lt_irrefl i (List.mem_range.1 (List.mem_filter.1 hmem).1)
    · exact hnotMem (by simpa using hmem)
  | true =>
    rw [if_pos rfl, and_iff_right rfl]
    rcases Nat.eq_or_lt_of_le hshort with hall | hfewer
    · refine iff_of_true ?_ (.inl hall)
      rw [List.getElem?_append_right (Nat.le_of_eq hall), hall, Nat.sub_self]
      rfl
    · by_cases hlast : rest.filter p = []
      · refine iff_of_true ?_ (.inr hlast)
        have hend : ((List.range i).filter p ++ [i])[i]? = none := by
          rw [List.getElem?_eq_none_iff, List.length_append]
          exact hfewer
        rw [hlast, hend]
        simp
      · -- What is taken stands behind `i`.
        refine iff_of_false (fun h => hnotMem ?_) (not_or.2 ⟨Nat.ne_of_lt hfewer, hlast⟩)
        rw [List.getElem?_append_right hshort, List.getElem?_cons,
          if_neg (Nat.sub_ne_zero_of_lt hfewer), List.getLast?_append_of_ne_nil _ (by simp),
          ← List.singleton_append, List.getLast?_append_of_ne_nil _ hlast] at h
        exact mem_of_getElem?_or_getLast? h

/-! ### The number of a modifier -/

theorem map_some_filterMap {α β : Type} (f : α → Option β) (as : List α) :
    (as.filterMap f).map some = (as.filter fun a => (f a).isSome).map f := by
  induction as with
  | nil => rfl
  | cons a as ih =>
    rw [List.filterMap_cons, List.filter_cons]
    cases ha : f a with
    | none => exact ih
    | some b => simp [ih, ha]

namespace Form

variable {ν : Type} {f : Form ν} {m : Match} {i : Nat}

/-- A modifier takes the number of its own placeholder exactly when that has a value and so has
every placeholder before it, or none behind it. -/
theorem source?_eq_self_iff (hi : i < f.numbers) :
    f.source? m i = some i ↔ f.Legible m i ∧
      ((∀ j < i, f.Legible m j) ∨ ∀ j, i < j → j < f.numbers → ¬ f.Legible m j) := by
  rw [source?, getElem?_or_getLast?_filter_range hi]
  simp

theorem legible_of_source? {j : Nat} (h : f.source? m i = some j) :
    j < f.numbers ∧ f.Legible m j := by
  obtain ⟨hj, hlegible⟩ := List.mem_filter.1 (mem_of_getElem?_or_getLast? h)
  exact ⟨List.mem_range.1 hj, of_decide_eq_true hlegible⟩

theorem source?_eq_none_iff : f.source? m i = none ↔ ∀ j < f.numbers, ¬ f.Legible m j := by
  rw [source?, Option.or_eq_none_iff, List.getLast?_eq_none_iff, List.filter_eq_nil_iff]
  constructor
  · rintro ⟨-, hnone⟩ j hj
    simpa using hnone j (List.mem_range.2 hj)
  · intro hnone
    have hempty : ∀ j ∈ List.range f.numbers, ¬ decide (f.Legible m j) = true :=
      fun j hj => by simpa using hnone j (List.mem_range.1 hj)
    exact ⟨by rw [List.filter_eq_nil_iff.2 hempty]; rfl, hempty⟩

variable [Scalar ν]

theorem legible_iff {j : Nat} :
    f.Legible m j ↔ ((f.written? m j).bind (readNumber? : List Char → Option ν)).isSome := by
  rw [Legible]
  cases f.written? m j <;> simp [readNumber?]

/-- The number that a modifier takes, by the placeholder that it comes from. -/
theorem values_getElem?_or_getLast? :
    (f.yield m).values[i]?.or (f.yield m).values.getLast? =
      (f.source? m i).bind fun j => (f.written? m j).bind readNumber? := by
  have hvalues : (f.yield m).values.map some =
      ((List.range f.numbers).filter fun j => f.Legible m j).map
        fun j => (f.written? m j).bind readNumber? := by
    refine (map_some_filterMap _ _).trans (congrArg _ (List.filter_congr fun j _ => ?_))
    rw [Bool.eq_iff_iff, decide_eq_true_eq, legible_iff]
    rfl
  have hsource : ((f.yield m).values[i]?.or (f.yield m).values.getLast?).map some =
      (f.source? m i).map fun j => (f.written? m j).bind readNumber? := by
    rw [source?, Option.map_or, Option.map_or, ← List.getElem?_map, ← List.getElem?_map,
      ← List.getLast?_map, ← List.getLast?_map, hvalues]
  simpa only [Option.bind_map, Function.id_comp, Option.bind_fun_some] using
    congrArg (·.bind id) hsource

end Form

/-! ### Forms of tables -/

namespace Grammar

variable {ν : Type} [Scalar ν]

variable {compile : PatternCompiler} {t : ParserTables ν} {g : Grammar ν}

/-- A grammar for tables has each table read, row by row. -/
theorem ofTables?_eq_ok (h : ofTables? compile t = .ok g) :
    t.forms.mapM (Form.ofRow? compile) = .ok g.forms ∧ KnownLines.ofRows? t.known = .ok g.known ∧
      (∃ stats, t.stats.mapM statMeaning? = .ok stats ∧ g.stats = .ofRows stats) ∧
      (∃ flags, t.flags.mapM flagMeaning? = .ok flags ∧ g.flags = .ofRows flags) ∧
      ∃ conditions, t.conditions.mapM conditionMeaning? = .ok conditions ∧
        g.conditions = .ofRows conditions := by
  obtain ⟨forms, hforms, h⟩ := bind_eq_ok_iff.1 h
  obtain ⟨stats, hstats, h⟩ := bind_eq_ok_iff.1 h
  obtain ⟨flags, hflags, h⟩ := bind_eq_ok_iff.1 h
  obtain ⟨conditions, hconditions, h⟩ := bind_eq_ok_iff.1 h
  obtain ⟨known, hknown, h⟩ := bind_eq_ok_iff.1 h
  cases h
  exact ⟨hforms, hknown, ⟨stats, hstats, rfl⟩, ⟨flags, hflags, rfl⟩, conditions, hconditions, rfl⟩

theorem numbers_of_mem_forms (h : ofTables? compile t = .ok g) {form : Form ν}
    (hform : form ∈ g.forms) : form.numbers = form.row.placeholders := by
  obtain ⟨row, -, hread⟩ := exists_of_forall₂ (mapM_eq_ok_iff.1 (ofTables?_eq_ok h).1) hform
  obtain ⟨rfl, hnumbers⟩ := Form.ofRow?_eq_ok hread
  exact hnumbers

theorem outputNumber_eq (row : FormRow ν) (values : List ν) (i : Nat) :
    outputNumber row values i =
      (values[i]?.or values.getLast?).getD (row.value.getD Scalar.one) := by
  unfold outputNumber
  cases values[i]?.or values.getLast? <;> rfl

/-- The modifiers of a form carry the values of their positions. -/
theorem value_of_ofReading {line : String} {form : Form ν} {found : FormMatch ν} {kind : Kind}
    {reading : StatReading ν} {i : Nat} {modifier : Modifier ν}
    (h : (ofReading line form found kind reading).outcome.modifiers[i]? = some modifier) :
    ∃ entry, modifier.value =
      outputValue kind (outputNumber form.row (found.values.map (· * form.row.scale)) i) entry := by
  unfold ofReading at h
  dsimp only at h
  split at h
  · simp [Outcome.modifiers] at h
  · simp only [Outcome.modifiers, List.getElem?_map, Option.map_eq_some_iff,
      List.getElem?_zipIdx] at h
    obtain ⟨_, ⟨name, -, rfl⟩, rfl⟩ := h
    exact ⟨_, by rw [Nat.zero_add]⟩

variable {take : List Char → Option (List (Found ν FlagMeaning) × List Char)}

/-- A line that no known line answers is read by the first form that matches. -/
theorem interpretBy?_of_isFirst {line : String} (hknown : g.known.lookup? line = none)
    {form : Form ν} {m : Match} (hm : form.pattern.find? line.toList = some m)
    (hfirst : IsFirst (fun f : Form ν => (f.pattern.find? line.toList).isSome) g.forms form) :
    g.interpretBy? take line = g.ofForm? take line form (form.yield m) := by
  obtain ⟨before, after, hforms, -, hbefore⟩ := hfirst
  have hfound : (g.forms.findSome? fun form => (form.match? line.toList).map (form, ·)) =
      some (form, form.yield m) := by
    refine List.findSome?_eq_some_iff.2 ⟨before, form, after, hforms, ?_, fun f hf => ?_⟩
    · rw [Form.match?, hm]
      rfl
    · have hnone := Option.not_isSome_iff_eq_none.1 (hbefore f hf)
      rw [Form.match?, hnone]
      rfl
  rw [interpretBy?, hknown, hfound]

theorem parseBy?_eq {text : String} (hline : Text.normal text ≠ "") (ctx : LineContext) :
    g.parseBy? take text ctx =
      (g.interpretBy? take (Text.normal text)).map fun i => i.outcome.stamp ctx i.isLocal := by
  simp only [parseBy?, if_neg hline]

theorem parseBy?_of_eq_empty {text : String} (hline : Text.normal text = "") (ctx : LineContext) :
    g.parseBy? take text ctx = some (.unsupported "empty modifier text") := by
  simp only [parseBy?, if_pos hline]

omit [Scalar ν] in
theorem modifiers_stamp (o : Outcome ν) (ctx : LineContext) (isLocal : Bool) :
    (o.stamp ctx isLocal).modifiers = o.modifiers.map (Outcome.stampModifier ctx isLocal) := by
  cases o <;> rfl

omit [Scalar ν] in
theorem support_stamp (o : Outcome ν) (ctx : LineContext) (isLocal : Bool) :
    (o.stamp ctx isLocal).support = o.support := by
  cases o <;> rfl

/-- The number at a position of a form is that of the placeholder that it comes from. -/
theorem outputNumber_yield (form : Form ν) (m : Match) (i : Nat) :
    outputNumber form.row ((form.yield m).values.map (· * form.row.scale)) i =
      (((form.source? m i).bind fun j => (form.written? m j).bind readNumber?).map
        (· * form.row.scale)).getD (form.row.value.getD Scalar.one) := by
  rw [← Form.values_getElem?_or_getLast?, outputNumber_eq, Option.map_or, ← List.getElem?_map,
    ← List.getLast?_map]

/-- The modifiers that the first form makes of a line carry the numbers of their positions, where
the form is of a numeric kind. -/
theorem value_of_parse? {text : String} (hknown : g.known.lookup? (Text.normal text) = none)
    {form : Form ν} (hfirst : IsFirst (fun f : Form ν =>
      (f.pattern.find? (Text.normal text).toList).isSome) g.forms form) {m : Match}
    (hm : form.pattern.find? (Text.normal text).toList = some m) {kind : Kind}
    (hkind : form.row.kind = some kind)
    (hnumeric : kind ∈ [Kind.base, .increased, .more, .override])
    (hshown : form.row.displayOnly = false) {ctx : LineContext} {o : Outcome ν}
    (ho : g.parse? text ctx = some o) {i : Nat} {modifier : Modifier ν}
    (hmodifier : o.modifiers[i]? = some modifier) :
    modifier.value = .number (outputNumber form.row
      ((form.yield m).values.map (· * form.row.scale)) i) := by
  rw [parse?] at ho
  by_cases hline : Text.normal text = ""
  · rw [parseBy?_of_eq_empty hline] at ho
    cases ho
    simp [Outcome.modifiers] at hmodifier
  · have hproduced : form.row.produced? = some kind := by
      rw [FormRow.produced?, hkind, hshown]
      rfl
    rw [parseBy?_eq hline, interpretBy?_of_isFirst hknown hm hfirst, ofForm?, hproduced,
      Option.map_map] at ho
    obtain ⟨reading, -, rfl⟩ := Option.map_eq_some_iff.1 ho
    rw [Function.comp_apply, modifiers_stamp, List.getElem?_map,
      Option.map_eq_some_iff] at hmodifier
    obtain ⟨source, hsource, rfl⟩ := hmodifier
    obtain ⟨entry, hentry⟩ := value_of_ofReading hsource
    change source.value = _
    rw [hentry]
    simp only [List.mem_cons, List.not_mem_nil, or_false] at hnumeric
    rcases hnumeric with rfl | rfl | rfl | rfl <;> rfl

/-- In accepted tables, take a line that no known line answers and the first form that matches it.
Where the form is of a numeric kind, the modifier at the position of a placeholder carries the
number of a placeholder times the scale, and it is that of its own exactly when that has a value
and either all placeholders before it have one or none behind it has. When no placeholder has a
value it carries the number of the form, or one. -/
theorem value_of_getElem?_modifiers (ht : ofTables? compile t = .ok g) {text : String}
    (hknown : g.known.lookup? (Text.normal text) = none) {form : Form ν}
    (hfirst : IsFirst (fun f : Form ν =>
      (f.pattern.find? (Text.normal text).toList).isSome) g.forms form) {m : Match}
    (hm : form.pattern.find? (Text.normal text).toList = some m) {kind : Kind}
    (hkind : form.row.kind = some kind)
    (hnumeric : kind ∈ [Kind.base, .increased, .more, .override])
    (hshown : form.row.displayOnly = false) {ctx : LineContext} {o : Outcome ν}
    (ho : g.parse? text ctx = some o) {i : Nat} (hi : i < form.row.placeholders)
    {modifier : Modifier ν} (hmodifier : o.modifiers[i]? = some modifier) :
    (∀ j, form.source? m i = some j → ∃ cs x, form.written? m j = some cs ∧
      readNumber? cs = some x ∧ modifier.value = .number (x * form.row.scale)) ∧
    (form.source? m i = none → modifier.value = .number (form.row.value.getD Scalar.one)) ∧
    (form.source? m i = some i ↔ form.Legible m i ∧ ((∀ j < i, form.Legible m j) ∨
      ∀ j, i < j → j < form.row.placeholders → ¬ form.Legible m j)) ∧
    (form.source? m i = none ↔ ∀ j < form.row.placeholders, ¬ form.Legible m j) := by
  have hform : form ∈ g.forms := by
    obtain ⟨before, after, hforms, -⟩ := hfirst
    rw [hforms]
    simp
  have hnumbers := numbers_of_mem_forms ht hform
  have hvalue := value_of_parse? hknown hfirst hm hkind hnumeric hshown ho hmodifier
  rw [outputNumber_yield] at hvalue
  refine ⟨fun j hj => ?_, fun hnone => ?_, ?_, ?_⟩
  · obtain ⟨x, hx⟩ := Option.isSome_iff_exists.1
      ((Form.legible_iff (ν := ν)).1 (Form.legible_of_source? hj).2)
    obtain ⟨cs, hcs, hx⟩ := Option.bind_eq_some_iff.1 hx
    refine ⟨cs, x, hcs, hx, ?_⟩
    rw [hvalue, hj]
    simp [hcs, hx]
  · rw [hvalue, hnone]
    rfl
  · rw [← hnumbers]
    exact Form.source?_eq_self_iff (hnumbers ▸ hi)
  · rw [← hnumbers]
    exact Form.source?_eq_none_iff

/-- In tables that have one form and no known lines, the form decides every line that it
matches. -/
theorem exists_match (compile : PatternCompiler) {t : ParserTables ν} {row : FormRow ν}
    (hknown : t.known = []) (hforms : t.forms = [row]) (line : String)
    {P : Grammar ν → Form ν → Match → Bool}
    (h : ((ofTables? compile t).toOption.any fun g => g.forms.all fun form =>
      (form.pattern.find? line.toList).any (P g form)) = true) :
    ∃ g form m, ofTables? compile t = .ok g ∧ g.known.lookup? line = none ∧
      IsFirst (fun f : Form ν => (f.pattern.find? line.toList).isSome) g.forms form ∧
      form.pattern.find? line.toList = some m ∧ P g form m = true := by
  cases hg : ofTables? compile t with
  | error fault => rw [hg] at h; cases h
  | ok g =>
    obtain ⟨hread, hempty, -⟩ := ofTables?_eq_ok hg
    rw [hforms] at hread
    rw [hknown] at hempty
    obtain ⟨form, more, -, hmore, hread⟩ := List.forall₂_cons_left_iff.1 (mapM_eq_ok_iff.1 hread)
    rw [List.forall₂_nil_left_iff.1 hmore] at hread
    simp only [hg, Except.toOption, Option.any_some, hread, List.all_cons, List.all_nil,
      Bool.and_true, Option.any_eq_true] at h
    obtain ⟨m, hm, hP⟩ := h
    refine ⟨g, form, m, rfl, ?_, ⟨[], [], hread, Option.isSome_of_eq_some hm, by simp⟩, hm, hP⟩
    rw [← Except.ok.inj hempty]
    simp [KnownLines.lookup?, KnownLines.empty]

/-- Tables with one form, which has two placeholders. -/
def coldAdds : ParserTables Rat where
  forms := [
    { id := "adds_cold"
      pattern := "^adds # to # cold damage$"
      kind := some .base
      scale := 1
      outputs := ["ColdDamageMin", "ColdDamageMax"] }]

theorem exists_match_of_coldAdds (line : String)
    {P : Form Rat → Match → Interpretation Rat → Bool}
    (h : ((ofTables? NamedPattern.compile coldAdds).toOption.any fun g => g.forms.all fun form =>
      (form.pattern.find? line.toList).any fun m =>
        (g.ofForm? g.flags.takeAll? line form (form.yield m)).any (P form m)) = true) :
    ∃ g form m i, ofTables? NamedPattern.compile coldAdds = .ok g ∧
      g.known.lookup? line = none ∧
      IsFirst (fun f : Form Rat => (f.pattern.find? line.toList).isSome) g.forms form ∧
      form.pattern.find? line.toList = some m ∧ g.interpret? line = some i ∧
      P form m i = true := by
  obtain ⟨g, form, m, hg, hknown, hfirst, hm, hread⟩ :=
    exists_match NamedPattern.compile rfl rfl line (P := fun g form m =>
      (g.ofForm? g.flags.takeAll? line form (form.yield m)).any (P form m)) h
  obtain ⟨i, hi, hP⟩ := (Option.any_eq_true _ _).1 hread
  exact ⟨g, form, m, i, hg, hknown, hfirst, hm,
    (interpretBy?_of_isFirst hknown hm hfirst).trans hi, hP⟩

/-- A modifier carries the number of its own placeholder. -/
theorem value_of_getElem?_modifiers_cold :
    ∃ g o modifier, ofTables? NamedPattern.compile coldAdds = .ok g ∧
      g.parse? "Adds 3 to 7 Cold Damage" {} = some o ∧ o.modifiers[0]? = some modifier ∧
        modifier.value = .number 3 := by
  have hline : Text.normal "Adds 3 to 7 Cold Damage" = "adds 3 to 7 cold damage" := by
    decide +kernel
  obtain ⟨g, form, m, i, hg, hknown, hfirst, hm, hi, hread⟩ := exists_match_of_coldAdds
    "adds 3 to 7 cold damage"
    (P := fun form m i => form.row.kind = some .base ∧ form.row.displayOnly = false ∧
      0 < form.row.placeholders ∧ form.row.scale = 1 ∧ form.source? m 0 = some 0 ∧
      form.written? m 0 = some ['3'] ∧ i.outcome.modifiers[0]?.isSome) (by decide +kernel)
  obtain ⟨hkind, hshown, hplace, hscale, hsource, hwritten, hsome⟩ := of_decide_eq_true hread
  rw [← hline] at hknown hfirst hm hi
  have hparse : g.parse? "Adds 3 to 7 Cold Damage" {} =
      some (i.outcome.stamp {} i.isLocal) := by
    rw [parse?, parseBy?_eq (by rw [hline]; decide)]
    exact congrArg _ hi
  have hfirstModifier : (i.outcome.stamp {} i.isLocal).modifiers[0]?.isSome := by
    rw [modifiers_stamp, List.getElem?_map, Option.isSome_map]
    exact hsome
  obtain ⟨modifier, hmodifier⟩ := Option.isSome_iff_exists.1 hfirstModifier
  obtain ⟨cs, x, hcs, hx, hvalue⟩ := (value_of_getElem?_modifiers hg hknown hfirst hm hkind
    (by decide) hshown hparse hplace hmodifier).1 0 hsource
  have hthree : readNumber? ['3'] = some (3 : Rat) := by decide +kernel
  rw [← Option.some.inj (hwritten.symm.trans hcs), hthree] at hx
  refine ⟨g, _, modifier, hg, hparse, hmodifier, ?_⟩
  rw [hvalue, hscale, ← Option.some.inj hx]
  exact congrArg Value.number (Rat.mul_one 3)

/-- The digit of another script has no value, and the number of the other placeholder is taken in
its place without a warning. -/
theorem parse_arabicDigit : ∃ g o, ofTables? NamedPattern.compile coldAdds = .ok g ∧
    g.parse? "Adds ٣ to 7 Cold Damage" {} = some o ∧ o.support = .full ∧
    o.modifiers.map (·.value.toNumber) = [7, 7] := by
  have hline : Text.normal "Adds ٣ to 7 Cold Damage" = "adds ٣ to 7 cold damage" := by
    decide +kernel
  obtain ⟨g, form, m, i, hg, -, -, -, hi, hread⟩ := exists_match_of_coldAdds
    "adds ٣ to 7 cold damage"
    (P := fun _ _ i => i.outcome.support = .full ∧
      i.outcome.modifiers.map (·.value.toNumber) = [7, 7]) (by decide +kernel)
  obtain ⟨hsupport, hvalues⟩ := of_decide_eq_true hread
  refine ⟨g, i.outcome.stamp {} i.isLocal, hg, ?_, by rw [support_stamp, hsupport], ?_⟩
  · rw [parse?, parseBy?_eq (by rw [hline]; decide), hline]
    exact congrArg _ hi
  · rw [modifiers_stamp, List.map_map]
    exact hvalues

end Grammar

end Loadout
