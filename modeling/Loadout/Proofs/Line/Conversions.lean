import Loadout.Damage.Table
import Loadout.Proofs.Line.Builtin
import Loadout.Proofs.Line.Placeholders
import Loadout.Proofs.Number.Ascii
import Loadout.Proofs.Pattern.Forced
import Loadout.Proofs.Pattern.Openings
import Loadout.Proofs.Text.Lines

/-!
# Reading conversion lines

A conversion line names a number, a damage type and another, in the wording of one of two built-in
forms. In normal form it begins with the number or with the word "gain". A known line either begins
in another way or goes on in another way, and the forms before the one of its shape are bound to the
start of the line and turn it away. The form of its shape has one way to match: the number ends at
the percent sign, and no name of a type begins another.

## Main definitions

* `ConversionShape`: how a conversion line is worded, with its words and its pattern
* `ConversionLine`: a line of some shape, in any case and spacing
* `ConversionLine.modifier`: the modifier that it stands for

## Main results

* `ConversionShape.find?_pattern`: the pattern of a shape captures the number and the types
* `ConversionShape.exists_form`: the built-in form of a shape and those before it
* `ConversionLine.parse?_eq`: a conversion line is read as its modifier
-/

namespace Loadout

open Pattern PatternReader

/-- A damage type as lines spell it. -/
def DamageType.word : DamageType → List Char
  | physical => "physical".toList
  | lightning => "lightning".toList
  | cold => "cold".toList
  | fire => "fire".toList
  | chaos => "chaos".toList

/-- The stat of a movement from one type to another. -/
def StepKind.stat : StepKind → DamageType → DamageType → String
  | convert => convertStat
  | gainAsExtra => gainStat

/-- Words with a space after each. -/
def Text.spaced (ws : List String) : List Char :=
  ws.flatMap fun w => w.toList ++ [' ']

theorem Text.spaced_append (ws vs : List String) : spaced (ws ++ vs) = spaced ws ++ spaced vs :=
  List.flatMap_append

theorem Text.join_map_append (ws : List String) (w : List Char) (more : List (List Char)) :
    join [' '] (ws.map String.toList ++ w :: more) = spaced ws ++ join [' '] (w :: more) := by
  induction ws with
  | nil => rfl
  | cons v ws ih =>
    obtain ⟨u, us, hmore⟩ : ∃ u us, ws.map String.toList ++ w :: more = u :: us :=
      List.exists_cons_of_ne_nil (by simp)
    rw [List.map_cons, List.cons_append, hmore, join_cons_cons, ← hmore, ih, spaced, spaced,
      List.flatMap_cons]
    simp only [List.append_assoc]

/-- How a conversion line is worded. -/
inductive ConversionShape where
  /-- Damage is converted, which is said with or without "is". -/
  | convert (copula : Bool)
  /-- Damage is gained as extra. -/
  | gain
  deriving DecidableEq

namespace ConversionShape

/-- The words before the number. -/
def opening : ConversionShape → List String
  | convert _ => []
  | gain => ["gain"]

/-- The words between the two types, after the one that both shapes have. -/
def middle : ConversionShape → List String
  | convert true => ["is"] ++ ["converted", "to"]
  | convert false => ["converted", "to"]
  | gain => ["as", "extra"]

variable (shape : ConversionShape) (number source target : List Char)

/-- The words of a line in lower case. -/
def words : List (List Char) :=
  shape.opening.map String.toList ++ (number ++ ['%']) :: "of".toList :: source ::
    "damage".toList :: (shape.middle.map String.toList ++ [target, "damage".toList])

/-- What follows the number in a line in normal form. -/
def tail : List Char :=
  '%' :: ' ' :: (Text.spaced ["of"] ++ (source ++ ' ' :: (Text.spaced ["damage"] ++
    (Text.spaced shape.middle ++ (target ++ ' ' :: "damage".toList)))))

theorem join_words :
    Text.join [' '] (shape.words number source target) =
      Text.spaced shape.opening ++ (number ++ shape.tail source target) := by
  have hmiddle := Text.join_map_append ("damage" :: shape.middle) target ["damage".toList]
  rw [List.map_cons, List.cons_append] at hmiddle
  have hspaced := Text.spaced_append ["damage"] shape.middle
  rw [List.singleton_append] at hspaced
  rw [words, Text.join_map_append, Text.join_cons_cons, Text.join_cons_cons, Text.join_cons_cons,
    hmiddle, hspaced, tail]
  simp only [Text.spaced, Text.join, List.flatMap_cons, List.flatMap_nil, List.append_assoc,
    List.cons_append, List.nil_append]

theorem cut_words :
    Text.cut (shape.words number source target) = shape.words number source target := by
  have hlast : ("damage".toList).rdropWhile (· == '.') = "damage".toList := by decide
  obtain ⟨front, hfront⟩ : ∃ front, shape.words number source target =
      front ++ ["damage".toList] :=
    ⟨shape.opening.map String.toList ++ (number ++ ['%']) :: "of".toList :: source ::
      "damage".toList :: (shape.middle.map String.toList ++ [target]), by
        simp only [words, List.append_assoc, List.cons_append, List.nil_append]⟩
  rw [hfront, Text.cut_append_word _ (by rw [hlast]; decide), hlast]

/-! ### The pattern of a shape -/

/-- The types that a line can name first, in the order of the pattern. -/
def sources : List DamageType :=
  [.physical, .lightning, .cold, .fire]

/-- The types that a line can name second, in the order of the pattern. -/
def targets : List DamageType :=
  [.lightning, .cold, .fire, .chaos]

/-- The pattern between the types, as the reader makes it. -/
def middlePattern (next : Pattern) : Pattern :=
  match shape with
  | convert _ =>
    .seq (.repeated (literalThen (Text.spaced ["is"]) .empty) 0 (some 1) true)
      (literalThen (Text.spaced ["converted", "to"]) next)
  | gain => literalThen (Text.spaced ["as", "extra"]) next

/-- The pattern of a shape, as the reader makes it. -/
def pattern : Pattern :=
  .seq (.anchor .textStart) (literalThen (Text.spaced shape.opening)
    (.seq (.group 1 readNumeral) (literalThen ('%' :: ' ' :: Text.spaced ["of"])
      (.seq (.group 2 (oneOf (sources.map DamageType.word)))
        (literalThen (' ' :: Text.spaced ["damage"]) (shape.middlePattern
          (.seq (.group 3 (oneOf (targets.map DamageType.word)))
            (literalThen (' ' :: "damage".toList) (.anchor .textEnd)))))))))

theorem run_middlePattern (next : Pattern) (k : Continuation) (before rest : List Char)
    (captures : List (Nat × List Char)) :
    (shape.middlePattern next).run k ⟨before, Text.spaced shape.middle ++ rest, captures⟩ =
      next.run k ⟨(Text.spaced shape.middle).reverse ++ before, rest, captures⟩ := by
  have hconverted : (Text.spaced ["converted", "to"]).head? = some 'c' := by decide
  have hhead {text : List Char} {c : Char} (hc : text.head? = some c) (rest : List Char) :
      (text ++ rest).head? = some c := by
    rw [List.head?_append, hc, Option.some_or]
  have his (rest : List Char) : (Text.spaced ["is"] ++ rest).head? = some 'i' :=
    hhead (by decide) rest
  match shape with
  | convert false =>
    have hnot : ¬ Text.spaced ["is"] <+: Text.spaced ["converted", "to"] ++ rest := by
      rintro ⟨more, hmore⟩
      have hfirst := his more
      rw [hmore, hhead hconverted] at hfirst
      exact absurd hfirst (by decide)
    exact (run_optional_of_absent hnot _ before captures).trans
      (run_literalThen (Text.spaced ["converted", "to"]) next k before rest captures)
  | convert true =>
    -- without "is" the next word would have to begin with another letter
    have hstop (q : Place)
        (hq : q.rest = Text.spaced ["is"] ++ (Text.spaced ["converted", "to"] ++ rest)) :
        (literalThen (Text.spaced ["converted", "to"]) next).run k q = none := by
      rw [← Option.not_isSome_iff_eq_none]
      intro hsome
      have hfirst := head?_of_run_literalThen hconverted hsome
      rw [hq, his] at hfirst
      exact absurd hfirst (by decide)
    have hmiddle : Text.spaced (convert true).middle =
        Text.spaced ["is"] ++ Text.spaced ["converted", "to"] :=
      Text.spaced_append _ _
    rw [hmiddle, List.append_assoc, List.reverse_append, List.append_assoc]
    exact (run_optional hstop before captures).trans
      (run_literalThen (Text.spaced ["converted", "to"]) next k _ rest captures)
  | gain => exact run_literalThen (Text.spaced ["as", "extra"]) next k before rest captures

/-- A line in normal form. -/
def line : List Char :=
  Text.spaced shape.opening ++ (number ++ shape.tail source target)

theorem incomparable_words : ∀ types ∈ [sources, targets], ∀ a ∈ types.map DamageType.word,
    ∀ b ∈ types.map DamageType.word, a <+: b → a = b := by
  decide

/-- The pattern of a shape captures the number and the types of a line. -/
theorem find?_pattern {number : List Char} (hnumber : Numeral ['+', '-'] number)
    {source target : DamageType} (hsource : source ∈ sources) (htarget : target ∈ targets) :
    ∃ m, shape.pattern.find? (shape.line number source.word target.word) = some m ∧
      m.captures = [(3, target.word), (2, source.word), (1, number)] := by
  have hpercent : isNumeric '%' = false := by decide +kernel
  have hstop (next : Pattern) (q : Place)
      (hq : ((literalThen ('%' :: ' ' :: Text.spaced ["of"]) next).run some q).isSome) :
      ∃ c ∈ q.rest.head?, isNumeric c = false :=
    ⟨'%', head?_of_run_literalThen rfl hq, hpercent⟩
  obtain ⟨before, hrun⟩ : ∃ before, shape.pattern.run some
      (Place.start (shape.line number source.word target.word)) =
        some ⟨before, [], [(3, target.word), (2, source.word), (1, number)]⟩ := by
    apply Exists.intro
    calc shape.pattern.run some (Place.start (shape.line number source.word target.word))
      _ = (literalThen (Text.spaced shape.opening) _).run some
            ⟨[], Text.spaced shape.opening ++
              (number ++ shape.tail source.word target.word), []⟩ := rfl
      _ = (seq (group 1 readNumeral) _).run some _ := run_literalThen _ _ _ _ _ _
      _ = (group 1 numeral).run _ _ := congrFun (congrFun (run_group_congr run_readNumeral 1) _) _
      _ = (literalThen ('%' :: ' ' :: Text.spaced ["of"]) _).run some
            ⟨_, ('%' :: ' ' :: Text.spaced ["of"]) ++ _, _⟩ :=
          run_group_numeral (hstop _) 1 hnumber ⟨'%', rfl, hpercent⟩ _ _
      _ = (group 2 (oneOf (sources.map DamageType.word))).run _ _ := run_literalThen _ _ _ _ _ _
      _ = (literalThen (' ' :: Text.spaced ["damage"]) _).run some
            ⟨_, (' ' :: Text.spaced ["damage"]) ++ _, _⟩ :=
          run_group_oneOf (List.mem_map_of_mem hsource) (incomparable_words sources (by simp))
            2 _ _ _ _
      _ = (shape.middlePattern _).run some _ := run_literalThen _ _ _ _ _ _
      _ = (seq (group 3 (oneOf (targets.map DamageType.word))) _).run some _ :=
          shape.run_middlePattern _ _ _ _ _
      _ = (literalThen (' ' :: "damage".toList) (.anchor .textEnd)).run some
            ⟨_, ' ' :: "damage".toList, _⟩ :=
          run_group_oneOf (List.mem_map_of_mem htarget) (incomparable_words targets (by simp))
            3 _ _ _ _
      _ = (Pattern.anchor .textEnd).run some ⟨_, [], _⟩ := run_literalThen_end _ _ _ _ _
      _ = some _ := rfl
  exact exists_find?_of_run hrun

/-! ### Forms -/

/-- The template of the stat that a shape is about. -/
def template : ConversionShape → String
  | convert _ => "\x7bfrom\x7dDamageConvertTo\x7bto\x7d"
  | gain => "\x7bfrom\x7dDamageGainAs\x7bto\x7d"

/-- The movement that a shape is about. -/
def kind : ConversionShape → StepKind
  | convert _ => .convert
  | gain => .gainAsExtra

/-- The characters that a line can begin with. -/
def firsts : ConversionShape → List Char
  | convert _ => AsciiNumeral.firsts
  | gain => ['g']

/-- A form reads the lines of a shape. -/
structure IsForm {ν : Type} [Scalar ν] (shape : ConversionShape) (f : Form ν) : Prop where
  pattern : f.pattern =
    NamedPattern.compiled ⟨shape.pattern, [some "n0", some "from", some "to"]⟩
  numbers : f.numbers = 1
  kind : f.row.kind = some .base
  scale : f.row.scale = ParserTables.hundredth
  outputs : f.row.outputs = [shape.template]
  shown : f.row.displayOnly = false
  everywhere : f.row.isLocal = false

theorem fill_template : ∀ source target : DamageType,
    Text.fill shape.template none [("from", source.word), ("to", target.word)] =
      some (shape.kind.stat source target) := by
  have hconvert : ∀ source ∈ DamageType.all, ∀ target ∈ DamageType.all,
      Text.fill (template (convert true)) none [("from", source.word), ("to", target.word)] =
        some (convertStat source target) := by decide +kernel
  have hgain : ∀ source ∈ DamageType.all, ∀ target ∈ DamageType.all,
      Text.fill (template gain) none [("from", source.word), ("to", target.word)] =
        some (gainStat source target) := by decide +kernel
  intro source target
  cases shape with
  | convert copula => exact hconvert source source.mem_all target target.mem_all
  | gain => exact hgain source source.mem_all target target.mem_all

theorem IsForm.yield_eq {ν : Type} [Scalar ν] {shape : ConversionShape} {f : Form ν}
    (h : shape.IsForm f) {m : Match} {number source target : List Char} {x : ν}
    (hm : m.captures = [(3, target), (2, source), (1, number)]) (hx : readNumber? number = some x) :
    f.yield m = ⟨[x], none, [("from", source), ("to", target)]⟩ := by
  have hslots : f.pattern.namedSlots = [("n0", 1), ("from", 2), ("to", 3)] := by
    rw [h.pattern]
    rfl
  have hgroups : [("n0", 1), ("from", 2), ("to", 3)].filter (fun slot : String × Nat =>
      slot.1 != "stat" && !isNumberGroup slot.1) = [("from", 2), ("to", 3)] := by
    decide +kernel
  have hname : numberGroupName 0 = "n0" := by decide +kernel
  have hgroup (slot : Nat) : m.group? slot =
      [(3, target), (2, source), (1, number)].lookup slot := by
    rw [Match.group?, hm]
  simp [Form.yield, hslots, hgroups, h.numbers, hname, hx, hgroup, List.lookup_cons]

theorem IsForm.ofForm?_eq {ν : Type} [Scalar ν] {shape : ConversionShape} {f : Form ν}
    (h : shape.IsForm f) (g : Grammar ν)
    (take : List Char → Option (List (Found ν FlagMeaning) × List Char)) (line : String) (x : ν)
    (source target : DamageType) :
    g.ofForm? take line f ⟨[x], none, [("from", source.word), ("to", target.word)]⟩ = some
      { outcome := .produced
          [{ stat := shape.kind.stat source target
             kind := .base
             value := .number (x * ParserTables.hundredth) }] [] } := by
  have hproduced : f.row.produced? = some .base := by
    rw [FormRow.produced?, h.kind, h.shown]
    rfl
  rw [Grammar.ofForm?, hproduced]
  simp [Grammar.groupReading?, Grammar.ofReading, FormRow.templates, h.outputs, h.scale,
    h.everywhere, shape.fill_template, Grammar.outputValue, Grammar.outputNumber]

end ConversionShape

/-! ### The built-in tables -/

namespace ConversionShape

open ParserTables

/-- A pattern is that of a shape, with the names of its groups. -/
def isPattern (shape : ConversionShape) (pattern : NamedPattern) : Bool :=
  pattern.pattern = shape.pattern && pattern.names = [some "n0", some "from", some "to"]

/-- A pattern turns away what conversion lines begin with. -/
def standsAside (pattern : NamedPattern) : Bool :=
  (AsciiNumeral.firsts ++ ['g']).all (pattern.pattern.turnsAway ·)

/-- What the patterns of the first forms are like. -/
def tests : List (NamedPattern → Bool) :=
  [standsAside, standsAside, standsAside, (convert true).isPattern, gain.isPattern]

theorem builtinTexts_tested :
    ((builtinTexts.zip tests).all fun entry => readsAs entry.2 entry.1) = true := by
  decide +kernel

theorem find?_eq_none_of_standsAside {ν : Type} {form : Form ν}
    (h : ∃ pattern : NamedPattern, form.pattern = pattern.compiled ∧ standsAside pattern = true) :
    ∀ c ∈ AsciiNumeral.firsts ++ ['g'], ∀ rest, form.pattern.find? (c :: rest) = none := by
  obtain ⟨pattern, hcompiled, haside⟩ := h
  intro c hc rest
  rw [hcompiled]
  exact find?_eq_none_of_turnsAway (List.all_eq_true.1 haside c hc) rest

variable {ν : Type} [Scalar ν] {g : Grammar ν}

/-- A form with the pattern of a shape and the rest of its row reads the lines of the shape. -/
theorem isForm_of_isPattern {shape : ConversionShape} {form : Form ν} {row : FormRow ν}
    (hform : Form.ofRow? NamedPattern.compile row = .ok form)
    (hpattern : ∃ pattern : NamedPattern, form.pattern = pattern.compiled ∧
      shape.isPattern pattern = true)
    (hnumbers : row.placeholders = 1)
    (hkind : row.kind = some .base) (hscale : row.scale = hundredth)
    (houtputs : row.outputs = [shape.template]) (hshown : row.displayOnly = false)
    (heverywhere : row.isLocal = false) : shape.IsForm form := by
  obtain ⟨rfl, hplaces⟩ := Form.ofRow?_eq_ok hform
  obtain ⟨⟨pattern, names⟩, hcompiled, hpattern⟩ := hpattern
  rw [isPattern, Bool.and_eq_true, decide_eq_true_eq, decide_eq_true_eq] at hpattern
  obtain ⟨rfl, rfl⟩ := hpattern
  exact ⟨hcompiled, hplaces.trans hnumbers, hkind, hscale, houtputs, hshown, heverywhere⟩

/-- The first five built-in forms: three that find nothing in conversion lines, and those of the
shapes. -/
theorem exists_forms (hg : Grammar.ofTables? NamedPattern.compile builtin = .ok g) :
    ∃ (aside : List (Form ν)) (converting gaining : Form ν) (more : List (Form ν)),
      g.forms = aside ++ converting :: gaining :: more ∧
      (∀ f ∈ aside, ∀ c ∈ AsciiNumeral.firsts ++ ['g'], ∀ rest,
        f.pattern.find? (c :: rest) = none) ∧
      (∀ copula, (convert copula).IsForm converting) ∧ gain.IsForm gaining := by
  have hrows := mapM_eq_ok_iff.1 (Grammar.ofTables?_eq_ok hg).1
  have hpatterns : (builtin : ParserTables ν).forms.map FormRow.pattern = builtinPatterns :=
    map_pattern_builtinForms
  have htexts := builtinTexts_tested
  rw [builtinTexts, ← hpatterns] at htexts
  have htests := Form.forall_mem_zip_of_forall₂ hrows htexts
  rw [builtin, builtinForms] at hrows
  simp only [List.forall₂_cons_left_iff] at hrows
  obtain ⟨display, _, -, ⟨localAdds, _, -, ⟨adds, _, -, ⟨converting, _, hconvert,
    ⟨gaining, more, hgain, -, rfl⟩, rfl⟩, rfl⟩, rfl⟩, hforms⟩ := hrows
  rw [hforms, tests] at htests
  simp only [List.zip_cons_cons, List.forall_mem_cons] at htests
  obtain ⟨hdisplay, hlocalAdds, hadds, hconvert', hgain', -⟩ := htests
  refine ⟨[display, localAdds, adds], converting, gaining, more, hforms, ?_, fun copula => ?_, ?_⟩
  · simp only [List.forall_mem_cons, List.not_mem_nil, false_imp_iff, implies_true, and_true]
    exact ⟨find?_eq_none_of_standsAside hdisplay, find?_eq_none_of_standsAside hlocalAdds,
      find?_eq_none_of_standsAside hadds⟩
  · exact isForm_of_isPattern hconvert hconvert'
      (by dsimp only [FormRow.placeholders]; decide +kernel) rfl rfl rfl rfl rfl
  · exact isForm_of_isPattern hgain hgain'
      (by dsimp only [FormRow.placeholders]; decide +kernel) rfl rfl rfl rfl rfl

/-- The forms before that of a shape find nothing in its lines. -/
theorem exists_form (hg : Grammar.ofTables? NamedPattern.compile builtin = .ok g)
    (shape : ConversionShape) :
    ∃ before form after, g.forms = before ++ form :: after ∧
      (∀ f ∈ before, ∀ c ∈ shape.firsts, ∀ rest, f.pattern.find? (c :: rest) = none) ∧
      shape.IsForm form := by
  obtain ⟨aside, converting, gaining, more, hforms, haside, hconverting, hgaining⟩ :=
    exists_forms hg
  cases shape with
  | convert copula =>
    exact ⟨aside, converting, gaining :: more, hforms,
      fun f hf c hc => haside f hf c (List.mem_append_left _ hc), hconverting copula⟩
  | gain =>
    refine ⟨aside ++ [converting], gaining, more, by rw [hforms, List.append_assoc]; rfl,
      fun f hf c hc => ?_, hgaining⟩
    rcases List.mem_append.1 hf with hf | hf
    · exact haside f hf c (List.mem_append_right _ hc)
    · have hturns : (ConversionShape.convert true).pattern.turnsAway 'g' = true := by
        decide +kernel
      rw [List.mem_singleton.1 hf, (hconverting true).pattern, List.mem_singleton.1 hc]
      exact find?_eq_none_of_turnsAway hturns

/-! ### Known lines -/

/-- The texts of the built-in known lines. -/
def builtinLines : List String :=
  (builtinKnown (ν := Rat)).map KnownRow.text

/-- Literal pieces with numbers between them that make up no conversion line: they begin with
another character, or with a number and then something else. -/
def foreign : List (List Char) → Bool
  | (c :: _) :: _ => !(AsciiNumeral.firsts ++ ['g']).contains c
  | [] :: piece :: _ => "% increased ".toList.isPrefixOf piece
  | _ => false

theorem builtinLines_checked : (builtinLines.all fun text =>
    let pieces := (splitRanges (Text.normal text).toList).1
    pieces.tail.dropLast.all (·.any (!isNumeric ·)) && foreign pieces) = true := by
  decide +kernel

theorem firsts_subset (shape : ConversionShape) : shape.firsts ⊆ AsciiNumeral.firsts ++ ['g'] := by
  cases shape with
  | convert copula => exact List.subset_append_left _ _
  | gain => exact List.subset_append_right _ _

variable (shape : ConversionShape) (number : AsciiNumeral) (source target : List Char)

theorem exists_line_eq_cons :
    ∃ c rest, shape.line number.text source target = c :: rest ∧ c ∈ shape.firsts := by
  cases shape with
  | convert copula =>
    obtain ⟨c, rest, htext, hc⟩ := number.exists_text_eq_cons
    exact ⟨c, _, by rw [line, htext]; rfl, hc⟩
  | gain =>
    have hopening : (Text.spaced gain.opening).head? = some 'g' := by decide
    obtain ⟨rest, hrest⟩ := List.head?_eq_some_iff.1 hopening
    exact ⟨'g', _, by rw [line, hrest]; rfl, by decide⟩

theorem isPrefix_of_woven {piece : List Char} {pieces ns : List (List Char)} {text : List Char}
    (h : Woven (piece :: pieces) ns text) : piece <+: text := by
  cases h with
  | last => exact List.prefix_rfl
  | next => exact List.prefix_append _ _

/-- A number and then a piece that is about an increase make up no conversion line: one that
converts goes on in another way after the number, and one that gains begins with a letter. -/
theorem not_woven_increased {piece : List Char} {pieces ns : List (List Char)}
    (hpiece : "% increased ".toList <+: piece) (hns : ∀ n ∈ ns, Numeral ['+', '-'] n) :
    ¬ Woven ([] :: piece :: pieces) ns (shape.line number.text source target) := by
  intro hwoven
  obtain ⟨filler, fillers, after, rfl, htext, hmore⟩ := woven_cons_cons.1 hwoven
  rw [List.forall_mem_cons] at hns
  rw [List.nil_append] at htext
  cases shape with
  | convert copula =>
    obtain ⟨after', hafter⟩ := hpiece.trans (isPrefix_of_woven hmore)
    have hpercent : isNumeric '%' = false := by decide +kernel
    have hnumber : (convert copula).line number.text source target =
        number.text ++ (convert copula).tail source target := rfl
    rw [hnumber] at htext
    obtain ⟨-, hsame⟩ := append_inj_of_isNumeric number.numeral_text.isNumeric hns.1.isNumeric
      ⟨'%', rfl, hpercent⟩ ⟨'%', by rw [← hafter]; rfl, hpercent⟩ htext
    have hthird := congrArg (·[2]?) hsame
    rw [← hafter] at hthird
    exact absurd hthird (by simp [tail, Text.spaced])
  | gain =>
    obtain ⟨c, rest, hline, hc⟩ := gain.exists_line_eq_cons number source target
    obtain ⟨d, filler, rfl⟩ : ∃ d more, filler = d :: more :=
      List.exists_cons_of_ne_nil (by
        rintro rfl
        cases hns.1 with
        | unsigned h => exact h.ne_nil rfl)
    have hd := hns.1.isNumeric d List.mem_cons_self
    rw [hline, List.cons_append] at htext
    rw [← (List.cons.inj htext).1, List.mem_singleton.1 hc] at hd
    exact absurd hd (by decide +kernel)

/-- Foreign pieces make up no conversion line, whatever numbers stand between them. -/
theorem not_woven_of_foreign {pieces ns : List (List Char)} (hforeign : foreign pieces = true)
    (hns : ∀ n ∈ ns, Numeral ['+', '-'] n) :
    ¬ Woven pieces ns (shape.line number.text source target) := by
  intro hwoven
  unfold foreign at hforeign
  split at hforeign
  case h_1 d piece more =>
    obtain ⟨c, rest, hline, hc⟩ := shape.exists_line_eq_cons number source target
    obtain ⟨tail, htail⟩ := isPrefix_of_woven hwoven
    rw [hline, List.cons_append] at htail
    rw [(List.cons.inj htail).1] at hforeign
    simp [shape.firsts_subset hc] at hforeign
  case h_2 piece more =>
    have hpiece := List.isPrefixOf_iff_prefix.1 hforeign
    exact shape.not_woven_increased number source target hpiece hns hwoven
  case h_3 => cases hforeign

theorem lookup?_line_eq_none (hg : Grammar.ofTables? NamedPattern.compile builtin = .ok g) :
    g.known.lookup? (String.ofList (shape.line number.text source target)) = none := by
  have hlines : (builtinKnown (ν := ν)).map KnownRow.text = builtinLines := rfl
  have hchecked : ∀ row ∈ builtinKnown (ν := ν), row.Separated ∧
      foreign (splitRanges (Text.normal row.text).toList).1 = true := by
    intro row hrow
    have hrow := List.all_eq_true.1 builtinLines_checked row.text
      (hlines ▸ List.mem_map_of_mem hrow)
    rw [Bool.and_eq_true] at hrow
    exact ⟨KnownRow.separated_iff.2 hrow.1, hrow.2⟩
  refine (KnownLines.lookup?_eq_some_iff_first (Grammar.ofTables?_eq_ok hg).2.1
    (fun row hrow => (hchecked row hrow).1) _).2.2 fun row hrow => ⟨?_, ?_⟩
  · rintro ⟨hplain, htext⟩
    have htemplate := template_splitRanges (Text.normal row.text).toList
    rw [not_hasRange_iff.1 hplain] at htemplate
    have hwoven := htemplate.woven
    have hforeign := (hchecked row hrow).2
    rw [htext, String.toList_ofList] at hwoven hforeign
    exact shape.not_woven_of_foreign number source target hforeign (by simp) hwoven
  · rintro numbers ⟨pieces, bounds, htemplate, -, ns, hwoven, hns, -⟩
    have hforeign := (hchecked row hrow).2
    rw [splitRanges_eq_iff.2 htemplate] at hforeign
    rw [String.toList_ofList] at hwoven
    exact shape.not_woven_of_foreign number source target hforeign hns hwoven

end ConversionShape

/-- A line that converts damage or gains it as extra, with the place where it stands. -/
structure ConversionLine where
  shape : ConversionShape
  number : AsciiNumeral
  source : DamageType
  target : DamageType
  source_mem : source ∈ ConversionShape.sources
  target_mem : target ∈ ConversionShape.targets
  text : String
  /-- In any case and spacing, the words of the line are those of its shape. -/
  written : (Text.words text.toList).map Text.lowercase =
    shape.words number.text source.word target.word
  place : LineContext := {}

namespace ConversionLine

open ParserTables

variable {ν : Type} [Scalar ν] (l : ConversionLine)

/-- The modifier of a line. -/
def modifier : Modifier ν :=
  { stat := l.shape.kind.stat l.source l.target
    kind := .base
    value := .number (l.number.value * hundredth)
    origin := l.place.origin }

theorem normal_text : Text.normal l.text =
    String.ofList (l.shape.line l.number.text l.source.word l.target.word) := by
  rw [Text.normal, Text.normalChars_eq_words, l.written, ConversionShape.cut_words,
    ConversionShape.join_words, ConversionShape.line]

/-- A conversion line is read as its modifier, without a warning. -/
theorem parse?_eq {g : Grammar ν} (hg : Grammar.ofTables? NamedPattern.compile builtin = .ok g) :
    g.parse? l.text l.place = some (.produced [l.modifier] []) := by
  obtain ⟨c, rest, hline, hc⟩ :=
    l.shape.exists_line_eq_cons l.number l.source.word l.target.word
  obtain ⟨before, form, after, hforms, hbefore, hform⟩ :=
    ConversionShape.exists_form hg l.shape
  obtain ⟨m, hm, hcaptures⟩ :=
    l.shape.find?_pattern l.number.numeral_text l.source_mem l.target_mem
  have hfind : form.pattern.find? (Text.normal l.text).toList = some m := by
    rw [l.normal_text, String.toList_ofList, hform.pattern]
    exact hm
  have hnone : ∀ f ∈ before, f.pattern.find? (Text.normal l.text).toList = none := by
    intro f hf
    rw [l.normal_text, String.toList_ofList, hline]
    exact hbefore f hf c hc rest
  have hfirst : IsFirst (fun f : Form ν =>
      (f.pattern.find? (Text.normal l.text).toList).isSome) g.forms form :=
    ⟨before, after, hforms, Option.isSome_iff_exists.2 ⟨m, hfind⟩,
      fun f hf => by simp [hnone f hf]⟩
  have hknown : g.known.lookup? (Text.normal l.text) = none := by
    rw [l.normal_text]
    exact l.shape.lookup?_line_eq_none l.number l.source.word l.target.word hg
  have hne : Text.normal l.text ≠ "" := by
    rw [l.normal_text, hline, ne_eq, String.ofList_eq_empty_iff]
    exact List.cons_ne_nil c rest
  rw [Grammar.parse?, Grammar.parseBy?_eq hne, Grammar.interpretBy?_of_isFirst hknown hfind hfirst,
    hform.yield_eq hcaptures l.number.readNumber?_text, hform.ofForm?_eq]
  rfl

end ConversionLine

end Loadout
