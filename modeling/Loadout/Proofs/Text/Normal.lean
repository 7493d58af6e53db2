import Loadout.Line.Parser
import Loadout.Proofs.Character.Lower
import Loadout.Proofs.Text.Words

/-!
# How far the normal form of a line is normal

Lower case leaves blanks and periods where they are and is left alone by itself, and words that
are put together are found again. What remains is the cut of the final periods. It is made once,
inside the last word, so a last word of nothing but periods goes and the periods of the word
before it stay. Those are the only lines whose normal form still ends in a period, and the only
ones whose normal form is normalized further.

## Main definitions

* `Text.Lowered`: what a word keeps in lower case
* `Text.cut`: words without the periods that end the last of them
* `Text.LeavesPeriod`: a text whose last word is periods and follows a word that ends in one
* `Text.displaying`: a grammar that knows one line

## Main results

* `Text.lowercase_lowercase`
* `Text.dropPeriods_join`: dropping final periods is a cut of words
* `Text.spaced_normal_and_stable_iff`: spacing, final period, idempotence and readings of normal
  forms
-/

namespace Loadout.Text

open Character

/-! ### Lower case of a text -/

/-- What a character becomes in a text, which depends on its neighbours for a capital sigma. -/
theorem exists_lowercaseAfter_cons (before rest : List Char) (c : Char) :
    ∃ mapped, lowercaseAfter before (c :: rest) = mapped ++ lowercaseAfter (c :: before) rest ∧
      (mapped = lower c ∨ c = 'Σ' ∧ (mapped = ['ς'] ∨ mapped = ['σ'])) := by
  by_cases hc : c = 'Σ'
  · cases hfinal : meetsCased before && !meetsCased rest with
    | true => exact ⟨['ς'], by simp [lowercaseAfter, hc, hfinal], .inr ⟨hc, .inl rfl⟩⟩
    | false => exact ⟨['σ'], by simp [lowercaseAfter, hc, hfinal], .inr ⟨hc, .inr rfl⟩⟩
  · exact ⟨lower c, by simp [lowercaseAfter, hc], .inl rfl⟩

theorem lower_of_mem_lowercaseAfter {before cs : List Char} {d : Char}
    (h : d ∈ lowercaseAfter before cs) : lower d = [d] := by
  induction cs generalizing before with
  | nil => cases h
  | cons c cs ih =>
    obtain ⟨mapped, hcons, hmapped⟩ := exists_lowercaseAfter_cons before cs c
    rw [hcons] at h
    rcases List.mem_append.1 h with h | h
    · rcases hmapped with rfl | ⟨-, rfl | rfl⟩
      · exact lower_of_mem_lower h
      · rw [List.mem_singleton.1 h]
        decide +kernel
      · rw [List.mem_singleton.1 h]
        decide +kernel
    · exact ih h

theorem lowercaseAfter_eq_self {before cs : List Char} (h : ∀ c ∈ cs, lower c = [c]) :
    lowercaseAfter before cs = cs := by
  induction cs generalizing before with
  | nil => rfl
  | cons c cs ih =>
    rw [List.forall_mem_cons] at h
    obtain ⟨mapped, hcons, hmapped⟩ := exists_lowercaseAfter_cons before cs c
    rw [hcons, ih h.2]
    rcases hmapped with rfl | ⟨rfl, -⟩
    · rw [h.1]
      rfl
    · exact absurd h.1 (by decide +kernel)

theorem lowercase_lowercase (cs : List Char) : lowercase (lowercase cs) = lowercase cs :=
  lowercaseAfter_eq_self fun _ => lower_of_mem_lowercaseAfter

/-! ### Blanks and periods in lower case -/

/-- What a word keeps in lower case: whether it is empty, whether it ends in a period and
whether it is all periods. -/
structure Lowered (w w' : List Char) : Prop where
  nil : w' = [] ↔ w = []
  last : w'.getLast? = some '.' ↔ w.getLast? = some '.'
  all : (∀ c ∈ w', c = '.') ↔ ∀ c ∈ w, c = '.'

private theorem marks_eq_false {c : Char} :
    marks.contains c = false ↔ isBlank c = false ∧ c ≠ '.' := by
  rw [marks_contains, Bool.or_eq_false_iff, beq_eq_false_iff_ne]

theorem lowercaseAfter_cons_of_not_mark (before rest : List Char) {c : Char}
    (hc : marks.contains c = false) :
    ∃ mapped, lowercaseAfter before (c :: rest) = mapped ++ lowercaseAfter (c :: before) rest ∧
      mapped ≠ [] ∧ ∀ d ∈ mapped, marks.contains d = false := by
  obtain ⟨mapped, hcons, hmapped⟩ := exists_lowercaseAfter_cons before rest c
  refine ⟨mapped, hcons, ?_⟩
  rcases hmapped with rfl | ⟨-, rfl | rfl⟩
  · refine ⟨lower_ne_nil c, fun d hd => ?_⟩
    rw [Bool.eq_false_iff]
    intro hmark
    rw [← eq_of_mark_mem_lower hd (.inr hmark), hmark] at hc
    cases hc
  · exact ⟨by simp, List.forall_mem_singleton.2 (by decide +kernel)⟩
  · exact ⟨by simp, List.forall_mem_singleton.2 (by decide +kernel)⟩

theorem lowercaseAfter_cons_of_mark (before rest : List Char) {c : Char}
    (hc : marks.contains c = true) :
    lowercaseAfter before (c :: rest) = c :: lowercaseAfter (c :: before) rest := by
  obtain ⟨mapped, hcons, hmapped⟩ := exists_lowercaseAfter_cons before rest c
  rw [hcons]
  rcases hmapped with rfl | ⟨rfl, -⟩
  · rw [lower_of_mark hc]
    rfl
  · exact absurd hc (by decide +kernel)

private theorem getLast?_cons_period {w : List Char} :
    ('.' :: w).getLast? = some '.' ↔ w = [] ∨ w.getLast? = some '.' := by
  cases w with
  | nil => simp
  | cons c w => rw [← List.singleton_append, List.getLast?_append_of_ne_nil _ (by simp)]; simp

private theorem Lowered.cons_period {w w' : List Char} (h : Lowered w w') :
    Lowered ('.' :: w) ('.' :: w') where
  nil := by simp
  last := by rw [getLast?_cons_period, getLast?_cons_period, h.nil, h.last]
  all := by simp [h.all]

private theorem Lowered.cons_mapped {w w' mapped : List Char} (h : Lowered w w') {c : Char}
    (hc : c ≠ '.') (hne : mapped ≠ []) (hmapped : ∀ d ∈ mapped, d ≠ '.') :
    Lowered (c :: w) (mapped ++ w') where
  nil := by simp [hne]
  last := by
    rcases List.eq_nil_or_concat w' with rfl | ⟨front, d, rfl⟩
    · rw [h.nil.1 rfl, List.append_nil]
      refine iff_of_false (fun hlast => ?_) (by simp [hc])
      exact hmapped '.' (List.mem_of_getLast? hlast) rfl
    · have hw : w ≠ [] := fun hw => absurd (h.nil.2 hw) (by simp)
      rw [List.getLast?_append_of_ne_nil _ (by simp), h.last, ← List.singleton_append,
        List.getLast?_append_of_ne_nil _ hw]
  all := by
    obtain ⟨d, mapped, rfl⟩ := List.exists_cons_of_ne_nil hne
    refine iff_of_false (fun hall => ?_) fun hall => hc (hall c List.mem_cons_self)
    exact hmapped d List.mem_cons_self (hall d List.mem_cons_self)

/-- Lower case keeps the pieces of a text between blanks apart, and their periods. -/
theorem forall₂_pieces_lowercaseAfter (before cs : List Char) :
    List.Forall₂ Lowered (pieces isBlank cs) (pieces isBlank (lowercaseAfter before cs)) := by
  induction cs generalizing before with
  | nil => exact .cons ⟨Iff.rfl, Iff.rfl, Iff.rfl⟩ .nil
  | cons c cs ih =>
    specialize ih (c :: before)
    obtain ⟨piece, more, hpieces⟩ := List.exists_cons_of_ne_nil (pieces_ne_nil isBlank cs)
    obtain ⟨piece', more', hpieces'⟩ := List.exists_cons_of_ne_nil
      (pieces_ne_nil isBlank (lowercaseAfter (c :: before) cs))
    rw [hpieces, hpieces'] at ih
    obtain ⟨hfirst, hmore⟩ := List.forall₂_cons.1 ih
    cases hblank : isBlank c with
    | true =>
      rw [lowercaseAfter_cons_of_mark _ _ (by simp [marks_contains, hblank])]
      simp only [pieces, hblank, if_true, hpieces, hpieces']
      exact .cons ⟨Iff.rfl, Iff.rfl, Iff.rfl⟩ ih
    | false =>
      by_cases hperiod : c = '.'
      · subst hperiod
        rw [lowercaseAfter_cons_of_mark _ _ (by decide +kernel)]
        simp only [pieces, hblank, hpieces, hpieces', Bool.false_eq_true, if_false]
        exact .cons hfirst.cons_period hmore
      · obtain ⟨mapped, hcons, hne, hmarks⟩ :=
          lowercaseAfter_cons_of_not_mark before cs (marks_eq_false.2 ⟨hblank, hperiod⟩)
        rw [hcons, pieces_append_of_forall_not (fun d hd => (marks_eq_false.1 (hmarks d hd)).1)
          hpieces']
        simp only [pieces, hblank, hpieces, Bool.false_eq_true, if_false]
        exact .cons (hfirst.cons_mapped hperiod hne
          fun d hd => (marks_eq_false.1 (hmarks d hd)).2) hmore

theorem forall₂_words_lowercase (cs : List Char) :
    List.Forall₂ Lowered (words cs) (words (lowercase cs)) := by
  rw [words, words, lowercase]
  have hpieces := forall₂_pieces_lowercaseAfter [] cs
  generalize pieces isBlank cs = ps at hpieces ⊢
  generalize pieces isBlank (lowercaseAfter [] cs) = ps' at hpieces ⊢
  induction hpieces with
  | nil => exact .nil
  | cons hfirst hmore ih =>
    simp only [List.filter_cons, decide_eq_true_eq, ne_eq, hfirst.nil]
    split
    · exact .cons hfirst ih
    · exact ih

/-! ### The cut of the final periods -/

/-- Words without the periods that end the last of them, which goes if nothing else is in it. -/
def cut (ws : List (List Char)) : List (List Char) :=
  ws.dropLast ++ (ws.getLast?.toList.map (·.rdropWhile (· == '.'))).filter (· ≠ [])

theorem cut_append_singleton (ws : List (List Char)) (w : List Char) :
    cut (ws ++ [w]) = ws ++ [w.rdropWhile (· == '.')].filter (· ≠ []) := by
  simp [cut]

theorem rdropWhile_period_eq_nil_iff {w : List Char} :
    w.rdropWhile (· == '.') = [] ↔ ∀ c ∈ w, c = '.' := by
  simp [List.rdropWhile_eq_nil_iff]

theorem cut_append_periods (ws : List (List Char)) {w : List Char} (hw : ∀ c ∈ w, c = '.') :
    cut (ws ++ [w]) = ws := by
  simp [cut_append_singleton, rdropWhile_period_eq_nil_iff.2 hw]

theorem cut_append_word (ws : List (List Char)) {w : List Char}
    (hw : w.rdropWhile (· == '.') ≠ []) :
    cut (ws ++ [w]) = ws ++ [w.rdropWhile (· == '.')] := by
  simp [cut_append_singleton, hw]

/-- Cutting periods off words leaves words. -/
theorem AllWords.cut {ws : List (List Char)} (h : AllWords ws) : AllWords (cut ws) := by
  rcases List.eq_nil_or_concat' ws with rfl | ⟨ws, w, rfl⟩
  · exact h
  · rw [cut_append_singleton]
    intro u hu
    rcases List.mem_append.1 hu with hu | hu
    · exact h u (List.mem_append_left _ hu)
    · obtain ⟨hu, hne⟩ := List.mem_filter.1 hu
      rw [List.mem_singleton.1 hu] at hne ⊢
      exact ⟨by simpa using hne, fun c hc =>
        (h w (by simp)).2 c ((List.rdropWhile_prefix _ w).subset hc)⟩

theorem dropPeriods_eq (cs : List Char) :
    dropPeriods cs = (cs.rdropWhile (· == '.')).rdropWhile isBlank := rfl

/-- What a cut at the end of a text takes from its last part, and whether it reaches further. -/
theorem rdropWhile_append (p : Char → Bool) (left right : List Char) :
    (left ++ right).rdropWhile p =
      if right.rdropWhile p = [] then left.rdropWhile p else left ++ right.rdropWhile p := by
  simp only [List.rdropWhile, List.reverse_append, List.dropWhile_append, List.isEmpty_iff,
    List.reverse_eq_nil_iff]
  split <;> simp

theorem rdropWhile_isBlank_eq_self {cs : List Char} (h : ∀ c ∈ cs.getLast?, isBlank c = false) :
    cs.rdropWhile isBlank = cs := by
  rw [List.rdropWhile_eq_self_iff]
  intro hne hlast
  rw [h _ (List.getLast?_eq_some_getLast hne)] at hlast
  cases hlast

/-- Dropping final periods is a cut of words. -/
theorem dropPeriods_join {ws : List (List Char)} (h : AllWords ws) :
    dropPeriods (join [' '] ws) = join [' '] (cut ws) := by
  have hcut (hperiods : (join [' '] ws).rdropWhile (· == '.') = join [' '] (cut ws)) :
      dropPeriods (join [' '] ws) = join [' '] (cut ws) := by
    rw [dropPeriods_eq, hperiods, rdropWhile_isBlank_eq_self (spaced_join h.cut).last]
  rcases List.eq_nil_or_concat' ws with rfl | ⟨ws, w, rfl⟩
  · rfl
  by_cases hw : w.rdropWhile (· == '.') = []
  · -- The last word is all periods, and the space before it stops the cut.
    have hlast := (spaced_join h.cut).last
    rw [cut_append_periods _ (rdropWhile_period_eq_nil_iff.1 hw)] at hcut hlast ⊢
    rcases eq_or_ne ws [] with rfl | hne
    · exact hcut hw
    · rw [dropPeriods_eq, join_append_singleton _ hne, rdropWhile_append, if_pos hw,
        List.rdropWhile_concat_neg _ _ _ (by decide), List.rdropWhile_concat_pos _ _ _ (by rfl),
        rdropWhile_isBlank_eq_self hlast]
  · rw [cut_append_word _ hw] at hcut ⊢
    refine hcut ?_
    rcases eq_or_ne ws [] with rfl | hne
    · rfl
    · rw [join_append_singleton _ hne, join_append_singleton _ hne, rdropWhile_append, if_neg hw]

theorem normalChars_eq (cs : List Char) :
    normalChars cs = join [' '] (cut (words (lowercase cs))) :=
  dropPeriods_join (allWords_words _)

/-! ### The period that stays -/

/-- The last of several words is nothing but periods and follows a word that ends in one. -/
def EndsInCut (ws : List (List Char)) : Prop :=
  ∃ front word last, ws = front ++ [word] ++ [last] ∧ word.getLast? = some '.' ∧
    ∀ c ∈ last, c = '.'

/-- A text whose last word is nothing but periods and follows a word that ends in one. -/
def LeavesPeriod (cs : List Char) : Prop :=
  EndsInCut (words cs)

/-- A period is left after the cut when the cut takes a whole word off another. -/
theorem getLast?_join_cut_iff {ws : List (List Char)} (h : AllWords ws) :
    (join [' '] (cut ws)).getLast? = some '.' ↔ EndsInCut ws := by
  rcases List.eq_nil_or_concat' ws with rfl | ⟨ws, w, rfl⟩
  · simp [cut, join, EndsInCut]
  by_cases hw : w.rdropWhile (· == '.') = []
  · have hperiods := rdropWhile_period_eq_nil_iff.1 hw
    rw [cut_append_periods _ hperiods]
    rcases List.eq_nil_or_concat' ws with rfl | ⟨ws, v, rfl⟩
    · refine iff_of_false (by simp [join]) ?_
      rintro ⟨front, word, last, heq, -⟩
      simpa using congrArg List.length heq
    · rw [getLast?_join (h v (by simp)).1]
      constructor
      · exact fun hlast => ⟨ws, v, w, rfl, hlast, hperiods⟩
      · rintro ⟨front, word, last, heq, hlast, -⟩
        obtain ⟨hfront, -⟩ := List.append_inj' heq rfl
        obtain ⟨-, hword⟩ := List.append_inj' hfront rfl
        rwa [List.singleton_inj.1 hword]
  · rw [cut_append_word _ hw, getLast?_join hw]
    refine iff_of_false (fun hlast => ?_) ?_
    · have hperiod := List.rdropWhile_last_not (· == '.') w hw
      rw [Option.some.inj ((List.getLast?_eq_some_getLast hw).symm.trans hlast)] at hperiod
      exact hperiod rfl
    · rintro ⟨front, word, last, heq, -, hall⟩
      obtain ⟨-, hlast⟩ := List.append_inj' heq rfl
      rw [List.singleton_inj.1 hlast] at hw
      exact hw (rdropWhile_period_eq_nil_iff.2 hall)

private theorem EndsInCut.of_forall₂ {R : List Char → List Char → Prop}
    (hlast : ∀ w w', R w w' → w.getLast? = some '.' → w'.getLast? = some '.')
    (hall : ∀ w w', R w w' → (∀ c ∈ w, c = '.') → ∀ c ∈ w', c = '.')
    {ws ws' : List (List Char)} (hws : List.Forall₂ R ws ws') (h : EndsInCut ws) :
    EndsInCut ws' := by
  obtain ⟨front, word, last, rfl, hword, hperiods⟩ := h
  rw [← List.forall₂_reverse_iff, List.reverse_append, List.reverse_append,
    List.reverse_singleton, List.reverse_singleton, List.singleton_append, List.singleton_append,
    List.forall₂_cons_left_iff] at hws
  obtain ⟨last', more, hl, hmore, hws'⟩ := hws
  obtain ⟨word', front', hw, -, rfl⟩ := List.forall₂_cons_left_iff.1 hmore
  refine ⟨front'.reverse, word', last', ?_, hlast _ _ hw hword, hall _ _ hl hperiods⟩
  rw [← List.reverse_reverse ws', hws']
  simp

theorem leavesPeriod_lowercase_iff (cs : List Char) :
    LeavesPeriod (lowercase cs) ↔ LeavesPeriod cs :=
  ⟨.of_forall₂ (fun _ _ h => h.last.1) (fun _ _ h => h.all.1) (forall₂_words_lowercase cs).flip,
    .of_forall₂ (fun _ _ h => h.last.2) (fun _ _ h => h.all.2) (forall₂_words_lowercase cs)⟩

theorem getLast?_normalChars_iff (cs : List Char) :
    (normalChars cs).getLast? = some '.' ↔ LeavesPeriod cs := by
  rw [normalChars_eq, getLast?_join_cut_iff (allWords_words _), ← leavesPeriod_lowercase_iff]
  rfl

/-! ### Normal forms of normal forms -/

theorem spaced_normalChars (cs : List Char) : Spaced (normalChars cs) := by
  rw [normalChars_eq]
  exact spaced_join (allWords_words _).cut

theorem lowercase_normalChars (cs : List Char) : lowercase (normalChars cs) = normalChars cs := by
  refine lowercaseAfter_eq_self fun c hc => ?_
  have hsqueezed : c ∈ squeeze (lowercase cs) :=
    (List.rdropWhile_prefix _ _).subset ((List.rdropWhile_prefix _ _).subset hc)
  rcases mem_join hsqueezed with rfl | ⟨w, hw, hc⟩
  · exact lower_of_mark (by decide +kernel)
  · exact lower_of_mem_lowercaseAfter (mem_of_mem_words hw hc)

/-- What is left to do on a normal form is the cut of the periods that stayed. -/
theorem normalChars_normalChars (cs : List Char) :
    normalChars (normalChars cs) = dropPeriods (normalChars cs) := by
  rw [normalChars, lowercase_normalChars, normalChars_eq, squeeze_join (allWords_words _).cut]

theorem dropPeriods_eq_self_iff {cs : List Char} (h : ∀ c ∈ cs.getLast?, isBlank c = false) :
    dropPeriods cs = cs ↔ cs.getLast? ≠ some '.' := by
  rw [dropPeriods_eq]
  constructor
  · intro heq hlast
    have hprefix := List.rdropWhile_prefix isBlank (cs.rdropWhile (· == '.'))
    rw [heq] at hprefix
    have hself := (List.rdropWhile_prefix (· == '.') cs).eq_of_length_le hprefix.length_le
    have hne : cs ≠ [] := by rintro rfl; cases hlast
    rw [List.getLast?_eq_some_getLast hne] at hlast
    exact List.rdropWhile_eq_self_iff.1 hself hne (beq_iff_eq.2 (Option.some.inj hlast))
  · intro hlast
    have hself : cs.rdropWhile (· == '.') = cs := by
      rw [List.rdropWhile_eq_self_iff]
      intro hne hperiod
      exact hlast (by rw [List.getLast?_eq_some_getLast hne, beq_iff_eq.1 hperiod])
    rw [hself, rdropWhile_isBlank_eq_self h]

instance (cs : List Char) : Decidable (LeavesPeriod cs) :=
  decidable_of_iff _ (getLast?_normalChars_iff cs)

theorem normal_normal_iff (text : String) :
    normal (normal text) = normal text ↔ ¬ LeavesPeriod text.toList := by
  rw [normal, normal, String.toList_ofList, String.ofList_inj, normalChars_normalChars,
    dropPeriods_eq_self_iff (spaced_normalChars _).last, Ne, getLast?_normalChars_iff]

/-! ### Readings of normal forms -/

section Readings

variable {ν : Type}

/-- A grammar that knows one line, and nothing about it but that it is for display. -/
def displaying (line : String) : Grammar ν where
  known := ⟨(∅ : Std.HashMap String (KnownEntry ν)).insert line ⟨[], false, true⟩, []⟩
  forms := []
  stats := ⟨[]⟩
  flags := ⟨[]⟩
  conditions := ⟨[]⟩

variable [Scalar ν]

theorem interpret?_displaying (line other : String) :
    ((displaying line : Grammar ν).interpret? other).map (·.outcome) =
      some (if line = other then .displayOnly else .unsupported "no matching pattern") := by
  by_cases h : line = other <;>
    simp [Grammar.interpret?, Grammar.interpretBy?, KnownLines.lookup?, displaying, h,
      Grammar.ofKnown?]

theorem parse?_ofGrammar (g : Grammar ν) (text : String) (ctx : LineContext) :
    ((Parser.ofGrammar g).parse? text ctx).map Prod.fst = g.parse? text ctx := by
  simp only [Parser.parse?, Grammar.parse?, Grammar.parseBy?]
  split
  · rfl
  · rw [Option.map_map, Parser.interpret?, Parser.ofGrammar, Std.HashMap.getElem?_empty,
      Option.map_map]
    rfl

/-- A normal form that is normalized further is read differently by some grammar. -/
theorem parse?_displaying_ne {text : String} (hline : normal text ≠ "")
    (h : normal (normal text) ≠ normal text) (ctx : LineContext) :
    (displaying (normal text) : Grammar ν).parse? (normal text) ctx ≠
      (displaying (normal text) : Grammar ν).parse? text ctx := by
  have hread (other : String) :
      ∃ i : Interpretation ν, (displaying (normal text)).interpret? other = some i ∧
        i.outcome = if normal text = other then .displayOnly
          else .unsupported "no matching pattern" :=
    Option.map_eq_some_iff.1 (interpret?_displaying (normal text) other)
  obtain ⟨known, hknown, hdisplay⟩ := hread (normal text)
  obtain ⟨other, hother, hunsupported⟩ := hread (normal (normal text))
  rw [Grammar.interpret?] at hknown hother
  rw [if_pos rfl] at hdisplay
  rw [if_neg h.symm] at hunsupported
  simp only [Grammar.parse?, Grammar.parseBy?, if_neg hline, hknown]
  split
  · simp [hdisplay, Outcome.stamp, Outcome.mapModifiers]
  · simp [hother, hdisplay, hunsupported, Outcome.stamp, Outcome.mapModifiers]

end Readings

/-- The normal form of a line has no blank at either end and single spaces in between. It still
ends in a period exactly when the last word of the line is nothing but periods and follows a word
that ends in one. On every other line normalizing a second time changes nothing and every parser
reads the normal form as it reads the line; on these it changes the normal form, and some parser
reads that differently. -/
theorem spaced_normal_and_stable_iff (text : String) :
    Spaced (normal text).toList ∧
      ((normal text).toList.getLast? = some '.' ↔ LeavesPeriod text.toList) ∧
      (normal (normal text) = normal text ↔ ¬ LeavesPeriod text.toList) ∧
      ∀ (ν : Type) [Scalar ν], (∀ (p : Parser ν) (ctx : LineContext),
        p.parse? (normal text) ctx = p.parse? text ctx) ↔ ¬ LeavesPeriod text.toList := by
  refine ⟨?_, ?_, normal_normal_iff text, fun ν _ => ⟨fun hparse hleaves => ?_, ?_⟩⟩
  · rw [normal, String.toList_ofList]
    exact spaced_normalChars _
  · rw [normal, String.toList_ofList]
    exact getLast?_normalChars_iff _
  · have hlast := (getLast?_normalChars_iff _).2 hleaves
    have hline : normal text ≠ "" := fun hline => by
      rw [normal, String.ofList_eq_empty_iff] at hline
      simp [hline] at hlast
    have hne : normal (normal text) ≠ normal text :=
      fun heq => (normal_normal_iff text).1 heq hleaves
    refine @parse?_displaying_ne ν _ _ hline hne {} ?_
    rw [← parse?_ofGrammar, ← parse?_ofGrammar, hparse]
  · intro hleaves p ctx
    rw [Parser.parse?, Parser.parse?, (normal_normal_iff text).2 hleaves]

/-- A word of nothing but periods is cut off a word whose own period stays. -/
theorem normal_corrupted :
    normal "Corrupted . ." = "corrupted ." ∧ normal "corrupted ." = "corrupted" := by
  decide +kernel

end Loadout.Text
