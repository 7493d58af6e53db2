import Loadout.Proofs.Line.Cuts
import Loadout.Proofs.Line.Readings

/-!
# Cutting until nothing is left

Flags are cut out of a text until none is found, and every cut leaves a space, in which and beside
which further occurrences may arise. The length of the text is therefore no measure of what is left
to do. Its ink is one: a phrase that is not empty in normal form has ink in each of its
occurrences, so every cut takes some away, and there are no more cuts than the text has characters
that are not blank. The empty phrase is found in every text, over and over.

So the cuts of a set of phrases come to an end in every text when none of the phrases is empty, and
in no text when one of them is. A line has its flags cut out of one text at most, and the rest of
its reading is settled by what comes of that. Hence a line comes to an outcome unless it gets as far
as to cut flags and there is an empty flag phrase.

## Main definitions

* `Ends`: a loop comes to an end
* `Grammar.ReachesFlags`: the reading of a line cuts flags

## Main results

* `PhraseSet.takeAll?_eq_none_iff`, `PhraseSet.ends_takeWithin?_iff`: when the cuts come to an end
* `Grammar.parse?_eq_none_iff`: which lines have no outcome
* `Grammar.ends_parse`: without empty phrases the cuts and the readings end
-/

namespace Loadout

/-! ### Loops that end -/

/-- What is done in rounds comes to an end: with enough rounds, and with any more, there is this
result. -/
def Ends {β : Type} (run : Nat → Option β) (result : β) : Prop :=
  ∃ enough, ∀ rounds, enough ≤ rounds → run rounds = some result

theorem ends_some {β : Type} (b : β) : Ends (fun _ => some b) b :=
  ⟨0, fun _ _ => rfl⟩

theorem Ends.map {β γ : Type} {run : Nat → Option β} {b : β} (h : Ends run b) (f : β → γ) :
    Ends (fun rounds => (run rounds).map f) (f b) := by
  obtain ⟨enough, hend⟩ := h
  exact ⟨enough, fun rounds hrounds => congrArg (Option.map f) (hend rounds hrounds)⟩

theorem Ends.unique {β : Type} {run : Nat → Option β} {b c : β} (hb : Ends run b)
    (hc : Ends run c) : b = c := by
  obtain ⟨enough, hb⟩ := hb
  obtain ⟨enough', hc⟩ := hc
  have hlast := hb (max enough enough') (Nat.le_max_left _ _)
  rw [hc _ (Nat.le_max_right _ _)] at hlast
  exact (Option.some.inj hlast).symm

variable {ν α : Type} [Scalar ν]

/-! ### One phrase -/

namespace Phrase

variable {p : Phrase α} {text occurrence rest : List Char} {found : Found ν α}

theorem Solid.ink_ne_zero (hp : p.Solid) (h : p.Cuts text found occurrence rest) :
    ink occurrence ≠ 0 := by
  obtain ⟨m, hm, -, rfl, -⟩ := h
  exact hp text m hm

theorem Solid.weight_lt (hp : p.Solid) (h : p.Cuts text found occurrence rest) :
    PhraseSet.weight rest < PhraseSet.weight text := by
  have hcut := congrArg Multiset.card h.cut.ink_eq
  rw [Multiset.card_add, card_ink, card_ink rest] at hcut
  have hpos := Multiset.card_pos.2 (hp.ink_ne_zero h)
  omega

/-- With more rounds than the text has ink the loop comes to its end, since each cut takes some. -/
theorem Solid.exists_cutWithin?_eq_some (hp : p.Solid) {rounds : Nat} (before : List (Found ν α))
    (hrounds : PhraseSet.weight text < rounds) :
    ∃ result, p.cutWithin? rounds before text = some result ∧
      PhraseSet.weight result.2 ≤ PhraseSet.weight text := by
  induction rounds generalizing before text with
  | zero => omega
  | succ rounds ih =>
    rw [cutWithin?]
    cases hcut : p.cut? (ν := ν) text with
    | none => exact ⟨_, rfl, Nat.le_refl _⟩
    | some cut =>
      obtain ⟨next, mid⟩ := cut
      obtain ⟨occurrence, hcuts⟩ := cut?_eq_some_iff.1 hcut
      have hlt := hp.weight_lt hcuts
      have hmid : PhraseSet.weight mid < rounds := by omega
      obtain ⟨result, hresult, hle⟩ := ih (before ++ [next]) hmid
      exact ⟨result, hresult, by omega⟩

theorem cutWithin?_mono {rounds more : Nat} (hle : rounds ≤ more) {before : List (Found ν α)}
    {result : List (Found ν α) × List Char} (h : p.cutWithin? rounds before text = some result) :
    p.cutWithin? more before text = some result := by
  induction rounds generalizing more before text with
  | zero => cases h
  | succ rounds ih =>
    obtain ⟨more, rfl⟩ := Nat.exists_eq_add_one.2 (show 0 < more by omega)
    rw [cutWithin?] at h ⊢
    cases hcut : p.cut? (ν := ν) text with
    | none => rwa [hcut] at h
    | some cut =>
      rw [hcut] at h
      exact ih (by omega) h

theorem isSome_find?_patternOf_nil (text : List Char) : ((patternOf []).find? text).isSome := by
  rw [Option.isSome_iff_ne_none, Pattern.find?, ne_eq, Pattern.findAfter?_eq_none_iff]
  intro h
  refine h [] text ⟨[], text, []⟩ rfl (leads_patternOf.2 ?_)
  refine ⟨nofun, nofun, [], [], text, rfl, ?_, by simp, by simp [numberCaptures]⟩
  rw [Text.pieces, woven_singleton]
  exact ⟨rfl, rfl⟩

/-- There is no end to the occurrences of an empty phrase. -/
theorem cutWithin?_eq_none (hp : p.text = "") (rounds : Nat) (before : List (Found ν α))
    (text : List Char) : p.cutWithin? rounds before text = none := by
  induction rounds generalizing before text with
  | zero => rfl
  | succ rounds ih =>
    obtain ⟨m, hm⟩ := Option.isSome_iff_exists.1 (isSome_find?_patternOf_nil text)
    have hfind : p.pattern.find? text = some m := by
      rw [p.pattern_eq, hp]
      exact hm
    rw [cutWithin?, cut?, hfind]
    exact ih _ _

end Phrase

/-! ### Sets of phrases -/

namespace PhraseSet

variable {s : PhraseSet α} {text rest : List Char}

theorem Cuts.length_add_weight_le {cuts : List (Found ν α × List Char)}
    (hs : ∀ p ∈ s.phrases, p.Solid) (h : s.Cuts text cuts rest) :
    cuts.length + weight rest ≤ weight text := by
  induction h with
  | stop => simp
  | next hp hcut _ ih =>
    have hlt := (hs _ hp).weight_lt hcut
    rw [List.length_cons]
    omega

theorem Cuts.ink_ne_zero {cuts : List (Found ν α × List Char)}
    (hs : ∀ p ∈ s.phrases, p.Solid) (h : s.Cuts text cuts rest) :
    ∀ cut ∈ cuts, ink cut.2 ≠ 0 := by
  induction h with
  | stop => simp
  | next hp hcut _ ih => exact List.forall_mem_cons.2 ⟨(hs _ hp).ink_ne_zero hcut, ih⟩

/-- The loop over the phrases of a set comes to its end when none of them is blank. -/
theorem exists_takeWithin?_eq_some (hs : ∀ p ∈ s.phrases, p.Solid) {rounds : Nat}
    (hrounds : weight text < rounds) :
    ∃ result : List (Found ν α) × List Char, s.takeWithin? rounds text = some result := by
  have hloop : ∃ result : List (Found ν α) × List Char,
      s.takeWithin? rounds text = some result ∧ weight result.2 < rounds := by
    refine exists_foldlM_eq_some
      (I := fun state : List (Found ν α) × List Char => weight state.2 < rounds) ?_ hrounds
    rintro ⟨found, mid⟩ (hmid : weight mid < rounds) p hp
    obtain ⟨result, hresult, hle⟩ := (hs p hp).exists_cutWithin?_eq_some found hmid
    exact ⟨result, hresult, by omega⟩
  obtain ⟨result, hresult, -⟩ := hloop
  exact ⟨result, hresult⟩

theorem takeWithin?_mono {rounds more : Nat} (hle : rounds ≤ more)
    {result : List (Found ν α) × List Char} (h : s.takeWithin? rounds text = some result) :
    s.takeWithin? more text = some result :=
  foldlM_eq_some_mono (fun _ _ _ _ => Phrase.cutWithin?_mono hle) h

theorem takeWithin?_eq_none {p : Phrase α} (hp : p ∈ s.phrases) (hempty : p.text = "")
    (rounds : Nat) (text : List Char) : s.takeWithin? (ν := ν) rounds text = none :=
  foldlM_eq_none hp (fun _ => Phrase.cutWithin?_eq_none hempty _ _ _) _

/-- The cuts come to an end unless a phrase is empty, whatever the text is. -/
theorem takeAll?_eq_none_iff :
    s.takeAll? (ν := ν) text = none ↔ ∃ p ∈ s.phrases, p.text = "" := by
  constructor
  · intro hnone
    by_contra hsolid
    obtain ⟨result, hresult⟩ := exists_takeWithin?_eq_some (ν := ν) (s := s)
      (fun p hp => Phrase.solid fun hempty => hsolid ⟨p, hp, hempty⟩)
      (Nat.lt_succ_self (weight text))
    exact Option.some_ne_none _ (hresult.symm.trans hnone)
  · rintro ⟨p, hp, hempty⟩
    exact takeWithin?_eq_none hp hempty _ text

/-- The cuts come to an end exactly when the limit that the ink sets is enough. -/
theorem ends_takeWithin?_iff {result : List (Found ν α) × List Char} :
    Ends (fun rounds => s.takeWithin? rounds text) result ↔ s.takeAll? text = some result := by
  constructor
  · rintro ⟨enough, hend⟩
    have hlast : s.takeWithin? (max enough (weight text + 1)) text = some result :=
      hend _ (Nat.le_max_left _ _)
    cases hall : s.takeAll? (ν := ν) text with
    | none =>
      obtain ⟨p, hp, hempty⟩ := takeAll?_eq_none_iff.1 hall
      rw [takeWithin?_eq_none hp hempty] at hlast
      cases hlast
    | some last =>
      rwa [takeWithin?_mono (Nat.le_max_right _ _) hall] at hlast
  · exact fun hall => ⟨weight text + 1, fun rounds hrounds => takeWithin?_mono hrounds hall⟩

/-- In a set without empty phrases the cuts come to an end. Each of them takes a character out of
the text that is not blank and puts a space in, so there are no more of them than such
characters. -/
theorem exists_ends_takeWithin?_ofRows {rows : List (String × α)}
    (hrows : ∀ row ∈ rows, Text.normal row.1 ≠ "") (text : List Char) :
    ∃ (found : List (Found ν α)) (rest : List Char),
      Ends (fun rounds => (ofRows rows).takeWithin? rounds text) (found, rest) ∧
      (ofRows rows).takeAll? text = some (found, rest) ∧ found.length ≤ weight text ∧
      ∃ cuts : List (Found ν α × List Char), (ofRows rows).Cuts text cuts rest ∧
        found = cuts.map Prod.fst ∧ ∀ cut ∈ cuts, ink cut.2 ≠ 0 := by
  have hempty : ¬ ∃ p ∈ (ofRows rows).phrases, p.text = "" := fun hempty =>
    have ⟨row, hrow, hblank⟩ := exists_empty_ofRows_iff.1 hempty
    hrows row hrow hblank
  have hsolid (p : Phrase α) (hp : p ∈ (ofRows rows).phrases) : p.Solid :=
    Phrase.solid fun hblank => hempty ⟨p, hp, hblank⟩
  have hends : (ofRows rows).takeAll? (ν := ν) text ≠ none := mt takeAll?_eq_none_iff.1 hempty
  obtain ⟨⟨found, rest⟩, hall⟩ := Option.ne_none_iff_exists'.1 hends
  obtain ⟨cuts, hcuts, hfound⟩ := cuts_takeAll? hall
  refine ⟨found, rest, ends_takeWithin?_iff.2 hall, hall, ?_, cuts, hcuts, hfound,
    hcuts.ink_ne_zero hsolid⟩
  have hlength := hcuts.length_add_weight_le hsolid
  rw [hfound, List.length_map]
  omega

end PhraseSet

/-! ### Lines -/

namespace Grammar

section Once

variable {β γ : Type}
  {run : (List Char → Option (List (Found ν FlagMeaning) × List Char)) → Option β}

omit [Scalar ν] in
/-- What is read goes by the flags that are cut out of one text. -/
def CutsOnce (run : (List Char → Option (List (Found ν FlagMeaning) × List Char)) → Option β) :
    Prop :=
  ∃ text f, ∀ take, run take = (take text).map f

omit [Scalar ν] in
theorem CutsOnce.map (h : CutsOnce run) (f : β → γ) : CutsOnce fun take => (run take).map f := by
  obtain ⟨text, cut, heq⟩ := h
  exact ⟨text, f ∘ cut, fun take => (congrArg (Option.map f) (heq take)).trans
    (Option.map_map f cut (take text))⟩

omit [Scalar ν] in
theorem cutsOnce_cutFlags? (text : List Char) :
    CutsOnce fun take : List Char → Option (List (Found ν FlagMeaning) × List Char) =>
      cutFlags? take text := by
  refine ⟨text, fun cut => (cut.1.foldl (fun set f => set ∪ f.payload.flags) FlagSet.empty,
    cut.1.foldl (fun set f => set ∪ f.payload.keywords) FlagSet.empty, cut.2), fun take => ?_⟩
  cases hcut : take text <;> simp [cutFlags?, hcut]

theorem CutsOnce.eq_none_iff (h : CutsOnce run) (s : PhraseSet FlagMeaning) :
    run s.takeAll? = none ↔ ∃ p ∈ s.phrases, p.text = "" := by
  obtain ⟨text, f, heq⟩ := h
  rw [heq, Option.map_eq_none_iff, PhraseSet.takeAll?_eq_none_iff]

theorem CutsOnce.eq_none (h : CutsOnce run) {s : PhraseSet FlagMeaning}
    (hs : ∃ p ∈ s.phrases, p.text = "") (rounds : Nat) : run (s.takeWithin? rounds) = none := by
  obtain ⟨text, f, heq⟩ := h
  obtain ⟨p, hp, hempty⟩ := hs
  rw [heq, PhraseSet.takeWithin?_eq_none hp hempty, Option.map_none]

theorem CutsOnce.ends_iff (h : CutsOnce run) (s : PhraseSet FlagMeaning) {b : β} :
    Ends (fun rounds => run (s.takeWithin? rounds)) b ↔ run s.takeAll? = some b := by
  obtain ⟨text, f, heq⟩ := id h
  cases hall : s.takeAll? (ν := ν) text with
  | none =>
    have hnone := h.eq_none (PhraseSet.takeAll?_eq_none_iff.1 hall)
    refine iff_of_false ?_ (by rw [heq, hall]; nofun)
    rintro ⟨enough, hend⟩
    exact Option.some_ne_none _ ((hend enough (Nat.le_refl _)).symm.trans (hnone enough))
  | some cut =>
    have hend := (PhraseSet.ends_takeWithin?_iff.2 hall).map f
    simp only [heq, hall, Option.map_some, Option.some.injEq]
    exact ⟨hend.unique, fun heq => heq ▸ hend⟩

end Once

/-- The reading of a line cuts flags: a known line answers it that is not for display, or the form
that decides it reads the words of a stat, which a form of a list does not. -/
inductive ReachesFlags (g : Grammar ν) (line : String) : Prop
  | known {hit : KnownHit ν} (answers : g.known.lookup? line = some hit)
      (shown : hit.entry.displayOnly = false)
  | form {form : Form ν} {m : Match} {kind : Kind} {words : List Char}
      (decides : g.Decides line form m) (produced : form.row.produced? = some kind)
      (reads : kind ≠ Kind.list) (captures : (form.yield m).stat = some words)

variable {g : Grammar ν} {line : String}

/-- A reading that cuts flags does so in one text, and then goes by what was cut. -/
theorem ReachesFlags.cutsOnce (h : g.ReachesFlags line) :
    CutsOnce fun take => g.interpretBy? take line := by
  cases h with
  | known answers shown =>
    simp only [interpretBy?, answers, ofKnown?, shown, Bool.false_eq_true, if_false]
    exact (cutsOnce_cutFlags? line.toList).map _
  | form decides produced reads captures =>
    simp only [decides.interpretBy?_eq, ofForm?, produced, groupReading?, captures, if_neg reads]
    exact ((cutsOnce_cutFlags? _).map _).map _

theorem exists_interpretBy?_eq_some (h : ¬ g.ReachesFlags line) :
    ∃ i, ∀ take, g.interpretBy? take line = some i := by
  rcases g.interpretBy?_cases g.flags.takeAll? line with
    ⟨hit, hhit, -⟩ | ⟨hknown, hforms, -⟩ | ⟨form, m, hdecides⟩
  · have hshown : hit.entry.displayOnly = true := by
      by_contra hshown
      exact h (.known hhit (Bool.eq_false_iff.2 hshown))
    simp only [interpretBy?, hhit, ofKnown?, if_pos hshown]
    exact ⟨_, fun _ => rfl⟩
  · exact ⟨_, fun _ => interpretBy?_of_forall_none hknown hforms⟩
  · simp only [hdecides.interpretBy?_eq, ofForm?]
    cases hproduced : form.row.produced? with
    | none => exact ⟨_, fun _ => rfl⟩
    | some kind =>
      cases hstat : (form.yield m).stat with
      | none => exact ⟨_, fun _ => rfl⟩
      | some words =>
        have hkind : kind = Kind.list := by
          by_contra hkind
          exact h (.form hdecides hproduced hkind hstat)
        simp only [groupReading?, if_pos hkind]
        exact ⟨_, fun _ => rfl⟩

theorem interpret?_eq_none_iff :
    g.interpret? line = none ↔ g.ReachesFlags line ∧ ∃ p ∈ g.flags.phrases, p.text = "" := by
  by_cases h : g.ReachesFlags line
  · exact (h.cutsOnce.eq_none_iff g.flags).trans (and_iff_right h).symm
  · obtain ⟨i, heq⟩ := exists_interpretBy?_eq_some h
    simp [interpret?, heq, h]

theorem parse?_eq_none_iff {text : String} {ctx : LineContext} :
    g.parse? text ctx = none ↔ Text.normal text ≠ "" ∧ g.ReachesFlags (Text.normal text) ∧
      ∃ p ∈ g.flags.phrases, p.text = "" := by
  rw [parse?]
  by_cases hline : Text.normal text = ""
  · simp [parseBy?_of_eq_empty hline, hline]
  · rw [parseBy?_eq hline, Option.map_eq_none_iff, ← interpret?, interpret?_eq_none_iff,
      and_iff_right hline]

theorem parseBy?_eq_none {text : String} {ctx : LineContext} (h : g.parse? text ctx = none)
    (rounds : Nat) : g.parseBy? (g.flags.takeWithin? rounds) text ctx = none := by
  obtain ⟨hline, hreaches, hempty⟩ := parse?_eq_none_iff.1 h
  rw [parseBy?_eq hline, hreaches.cutsOnce.eq_none hempty, Option.map_none]

/-- The loops of a reading come to their end exactly where there is an outcome. -/
theorem ends_parseBy?_iff {text : String} {ctx : LineContext} {o : Outcome ν} :
    Ends (fun rounds => g.parseBy? (g.flags.takeWithin? rounds) text ctx) o ↔
      g.parse? text ctx = some o := by
  have hsettled (b : Outcome ν) : Ends (fun _ => some b) o ↔ some b = some o := by
    rw [Option.some.injEq]
    exact ⟨(ends_some b).unique, fun heq => heq ▸ ends_some b⟩
  rw [parse?]
  by_cases hline : Text.normal text = ""
  · simp only [parseBy?_of_eq_empty hline, hsettled]
  · simp only [parseBy?_eq hline]
    by_cases h : g.ReachesFlags (Text.normal text)
    · exact (h.cutsOnce.map _).ends_iff g.flags
    · obtain ⟨i, heq⟩ := exists_interpretBy?_eq_some h
      simp only [heq, Option.map_some, hsettled]

theorem exists_empty_flag_iff {compile : PatternCompiler} {t : ParserTables ν}
    (ht : ofTables? compile t = .ok g) :
    (∃ p ∈ g.flags.phrases, p.text = "") ↔ ∃ row ∈ t.flags, Text.normal row.phrase = "" := by
  obtain ⟨-, -, -, ⟨flags, hflags, heq⟩, -⟩ := ofTables?_eq_ok ht
  have hphrases : flags.map Prod.fst = t.flags.map FlagRow.phrase := by
    rw [← List.forall₂_eq_eq_eq, List.forall₂_map_left_iff, List.forall₂_map_right_iff]
    refine (mapM_eq_ok_iff.1 hflags).flip.imp fun entry row hread => ?_
    obtain ⟨_, _, hentry⟩ := bind_eq_ok_iff.1 hread
    rw [← Except.ok.inj hentry]
  have hempty : (∃ phrase ∈ flags.map Prod.fst, Text.normal phrase = "") ↔
      ∃ phrase ∈ t.flags.map FlagRow.phrase, Text.normal phrase = "" := by rw [hphrases]
  rw [heq, PhraseSet.exists_empty_ofRows_iff]
  simpa only [List.mem_map, exists_exists_and_eq_and] using hempty

/-- Cutting phrases ends. Where no row is empty in normal form, the loop over a set of phrases comes
to an end in every text, with at most one cut for each character that is not blank; each cut takes
such a character out and puts a space in. So every line is read to the end by accepted tables that
have no empty flag phrase. -/
theorem ends_parse :
    (∀ (α : Type) (rows : List (String × α)), (∀ row ∈ rows, Text.normal row.1 ≠ "") →
      ∀ text : List Char, ∃ (found : List (Found ν α)) (rest : List Char),
        Ends (fun rounds => (PhraseSet.ofRows rows).takeWithin? rounds text) (found, rest) ∧
          (PhraseSet.ofRows rows).takeAll? text = some (found, rest) ∧
          found.length ≤ PhraseSet.weight text ∧
          ∃ cuts : List (Found ν α × List Char), (PhraseSet.ofRows rows).Cuts text cuts rest ∧
            found = cuts.map Prod.fst ∧ ∀ cut ∈ cuts, ink cut.2 ≠ 0) ∧
    ∀ (compile : PatternCompiler) (t : ParserTables ν) (g : Grammar ν),
      ofTables? compile t = .ok g → (∀ row ∈ t.flags, Text.normal row.phrase ≠ "") →
      ∀ (text : String) (ctx : LineContext), ∃ o : Outcome ν,
        Ends (fun rounds => g.parseBy? (g.flags.takeWithin? rounds) text ctx) o ∧
          g.parse? text ctx = some o := by
  refine ⟨fun α rows hrows text => PhraseSet.exists_ends_takeWithin?_ofRows hrows text, ?_⟩
  intro compile t g ht hrows text ctx
  obtain ⟨o, ho⟩ := Option.ne_none_iff_exists'.1 fun hnone : g.parse? text ctx = none => by
    obtain ⟨row, hrow, hempty⟩ := (exists_empty_flag_iff ht).1 (parse?_eq_none_iff.1 hnone).2.2
    exact hrows row hrow hempty
  exact ⟨o, ends_parseBy?_iff.2 ho, ho⟩

/-- Tables with a flag phrase of nothing but a period, which is empty in normal form. -/
def dotted : ParserTables Rat where
  forms := [{ id := "has", pattern := "^has (?P<stat>.+)$", kind := some .flag, scale := 1 }]
  stats := [{ phrase := "life", stat := "Life" }]
  flags := [{ phrase := ".", flags := ["ATTACK"] }]

theorem exists_parse?_dotted_eq_none :
    ∃ g, ofTables? NamedPattern.compile dotted = .ok g ∧
      Text.normal "Has Life" = "has life" ∧ g.parse? "Has Life" {} = none := by
  have hline : Text.normal "Has Life" = "has life" := by decide +kernel
  obtain ⟨g, form, m, hg, hdecides, hread⟩ := exists_decides
    NamedPattern.compile (t := dotted) rfl rfl "has life"
    (P := fun _ form m => form.row.produced? = some .flag ∧
      (form.yield m).stat = some "life".toList) (by decide +kernel)
  obtain ⟨hproduced, hstat⟩ := of_decide_eq_true hread
  refine ⟨g, hg, hline, parse?_eq_none_iff.2 ⟨by rw [hline]; decide, ?_,
    (exists_empty_flag_iff hg).2 ⟨_, List.mem_singleton_self _, by decide +kernel⟩⟩⟩
  rw [hline]
  exact .form hdecides hproduced (by decide) hstat

/-- Tables with a flag phrase whose occurrences can arise anew where one of them was cut out. -/
def nested : ParserTables Rat where
  forms := [{ id := "has", pattern := "^has (?P<stat>.+)$", kind := some .flag, scale := 1 }]
  stats := [{ phrase := "life", stat := "Life" }]
  flags := [{ phrase := "-a b-" }]

/-- A cut makes room for another one, and then there is none left. -/
theorem ends_parse_nested :
    Ends (fun rounds => ((PhraseSet.ofRows [("-a b-", ())]).takeWithin? (ν := Rat) rounds
        "-a-a b-b-".toList).map fun result => (result.1.length, result.2)) (2, [' ']) ∧
      ∃ g, ofTables? NamedPattern.compile nested = .ok g ∧
        Ends (fun rounds => (g.parseBy? (g.flags.takeWithin? rounds) "Has Life -A-a b-b-" {}).map
          Outcome.support) .full := by
  have hrow : Text.normal "-a b-" ≠ "" := by decide +kernel
  constructor
  · obtain ⟨found, rest, hend, hall, -⟩ := (ends_parse (ν := Rat)).1 Unit [("-a b-", ())]
      (by simpa using hrow) "-a-a b-b-".toList
    have htwo : ((PhraseSet.ofRows [("-a b-", ())]).takeAll? (ν := Rat) "-a-a b-b-".toList).map
        (fun result => (result.1.length, result.2)) = some (2, [' ']) := by decide +kernel
    rw [hall] at htwo
    exact Option.some.inj htwo ▸ hend.map fun result => (result.1.length, result.2)
  · have hline : Text.normal "Has Life -A-a b-b-" = "has life -a-a b-b-" := by decide +kernel
    obtain ⟨g, form, m, hg, hdecides, hread⟩ := exists_decides
      NamedPattern.compile (t := nested) rfl rfl "has life -a-a b-b-"
      (P := fun g form m => (g.ofForm? g.flags.takeAll? "has life -a-a b-b-" form
        (form.yield m)).any fun i => i.outcome.support = .full)
      (by decide +kernel)
    obtain ⟨i, hi, hfull⟩ := (Option.any_eq_true _ _).1 hread
    rw [← hline] at hdecides hi
    obtain ⟨o, hend, ho⟩ := (ends_parse (ν := Rat)).2 NamedPattern.compile nested g hg
      (by simpa [nested] using hrow) "Has Life -A-a b-b-" {}
    rw [hdecides.parse?_eq (by rw [hline]; decide), hi] at ho
    have hsupport : o.support = .full := by
      rw [← Option.some.inj ho, support_stamp, of_decide_eq_true hfull]
    exact ⟨g, hg, hsupport ▸ hend.map Outcome.support⟩

end Grammar

end Loadout
