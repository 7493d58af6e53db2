import Loadout.Proofs.Document.Flags
import Loadout.Proofs.Text.Normal

/-!
# Lines of a block and words of a line

A blank is neither cased nor passed over when the neighbours of a sigma are looked at, so the
lower case of a word does not depend on the words around it. The normal form of a line is
therefore made of its words, each lowered by itself, and the blanks around a line do not show
in it.

A block is cut at line feeds and its pieces are trimmed. A carriage return before the line feed
belongs to the line ending, but it is a blank, so trimming takes it off as well. After a final
line feed there is no line, but an empty piece, which is dropped.

## Main definitions

* `Text.lines`: the lines of a block

## Main results

* `Text.words_lowercase`: a text is lowered word by word
* `Text.normal_trim`: the normal form of a trimmed line
* `Text.nonblankLines_eq`: the lines that are read of a block
* `Text.nonblankLines_append`: the lines of two blocks with a line feed between them
-/

namespace Loadout

/-! ### Blanks and the case of their neighbours -/

namespace Character

/-- Whether no code point of a run is in a set. -/
def Ranges.clear (runs : Ranges) (run : Nat × Nat) : Bool :=
  runs.all fun other => other.2 < run.1 || run.2 < other.1

theorem Ranges.contains_eq_false_of_clear {runs : Ranges} {run : Nat × Nat}
    (h : runs.clear run = true) {c : Char} (hc : run.1 ≤ c.toNat ∧ c.toNat ≤ run.2) :
    runs.contains c = false := by
  rw [Bool.eq_false_iff]
  intro hmem
  obtain ⟨other, hother, hrange⟩ := Ranges.contains_iff.1 hmem
  have hclear := List.all_eq_true.1 h other hother
  rw [Bool.or_eq_true, decide_eq_true_eq, decide_eq_true_eq] at hclear
  omega

/-- The runs of blanks keep clear of the letters that have a case and of what is passed over. -/
theorem blanks_checked : (blanks.all fun run =>
    (run.2 < 65 || 122 < run.1) && casedRanges.clear run && caseIgnorableRanges.clear run) =
      true := by
  decide +kernel

theorem caseless_of_isBlank {c : Char} (h : isBlank c = true) :
    isCased c = false ∧ isCaseIgnorable c = false := by
  obtain ⟨run, hrun, hc⟩ := Ranges.contains_iff.1 h
  have hchecked := List.all_eq_true.1 blanks_checked run hrun
  rw [Bool.and_eq_true, Bool.and_eq_true, Bool.or_eq_true, decide_eq_true_eq,
    decide_eq_true_eq] at hchecked
  obtain ⟨⟨hletters, hcased⟩, hpassed⟩ := hchecked
  refine ⟨?_, Ranges.contains_eq_false_of_clear hpassed hc⟩
  rw [isCased, Ranges.contains_eq_false_of_clear hcased hc]
  split
  · simp only [isAsciiLetter, Bool.or_eq_false_iff, Bool.and_eq_false_iff, decide_eq_false_iff_not]
    omega
  · rfl

end Character

namespace Text

open Character

/-! ### Lower case word by word -/

/-- What comes after a blank does not bear on the case of what comes before it. -/
theorem meetsCased_append_cons {b : Char} (hb : isBlank b = true) (left right : List Char) :
    meetsCased (left ++ b :: right) = meetsCased left := by
  obtain ⟨hcased, hpassed⟩ := caseless_of_isBlank hb
  rw [meetsCased, meetsCased, List.dropWhile_append]
  cases left.dropWhile isCaseIgnorable with
  | nil => simp [List.dropWhile_cons_of_neg, hpassed, hcased]
  | cons c rest => rfl

/-- What comes before a blank does not bear on the lower case of what comes after it. -/
theorem lowercaseAfter_append_cons {b : Char} (hb : isBlank b = true) (near far cs : List Char) :
    lowercaseAfter (near ++ b :: far) cs = lowercaseAfter near cs := by
  induction cs generalizing near with
  | nil => rfl
  | cons c cs ih =>
    rw [lowercaseAfter, lowercaseAfter, meetsCased_append_cons hb, ← List.cons_append, ih]

theorem lowercase_append_cons {b : Char} (hb : isBlank b = true) (left right : List Char) :
    lowercase (left ++ b :: right) = lowercase left ++ b :: lowercase right := by
  have hafter (before : List Char) :
      lowercaseAfter before (left ++ b :: right) =
        lowercaseAfter before left ++ b :: lowercase right := by
    induction left generalizing before with
    | nil =>
      rw [List.nil_append, lowercaseAfter_cons_of_mark _ _ (by simp [marks_contains, hb])]
      exact congrArg (b :: ·) (lowercaseAfter_append_cons hb [] before right)
    | cons c left ih =>
      rw [List.cons_append, lowercaseAfter, lowercaseAfter, ih, meetsCased_append_cons hb,
        List.append_assoc]
  exact hafter []

theorem exists_first_separator (sep : Char → Bool) (cs : List Char) :
    (∀ c ∈ cs, sep c = false) ∨
      ∃ left c right, cs = left ++ c :: right ∧ (∀ d ∈ left, sep d = false) ∧ sep c = true := by
  induction cs with
  | nil => exact .inl (by simp)
  | cons c cs ih =>
    cases hc : sep c with
    | true => exact .inr ⟨[], c, cs, rfl, by simp, hc⟩
    | false =>
      rcases ih with hnone | ⟨left, d, right, rfl, hleft, hd⟩
      · exact .inl (List.forall_mem_cons.2 ⟨hc, hnone⟩)
      · exact .inr ⟨c :: left, d, right, rfl, List.forall_mem_cons.2 ⟨hc, hleft⟩, hd⟩

theorem isBlank_of_mem_lowercaseAfter {before cs : List Char}
    (h : ∀ c ∈ cs, isBlank c = false) {d : Char} (hd : d ∈ lowercaseAfter before cs) :
    isBlank d = false := by
  induction cs generalizing before with
  | nil => cases hd
  | cons c cs ih =>
    rw [List.forall_mem_cons] at h
    obtain ⟨mapped, hcons, hmapped⟩ := exists_lowercaseAfter_cons before cs c
    rw [hcons] at hd
    rcases List.mem_append.1 hd with hd | hd
    · rcases hmapped with rfl | ⟨-, rfl | rfl⟩
      · rw [Bool.eq_false_iff]
        intro hblank
        rw [eq_of_mark_mem_lower hd (.inr (by simp [marks_contains, hblank])), h.1] at hblank
        cases hblank
      · rw [List.mem_singleton.1 hd]
        decide
      · rw [List.mem_singleton.1 hd]
        decide
    · exact ih h.2 hd

theorem lowercase_ne_nil {cs : List Char} (h : cs ≠ []) : lowercase cs ≠ [] := by
  obtain ⟨c, cs, rfl⟩ := List.exists_cons_of_ne_nil h
  obtain ⟨mapped, hcons, hmapped⟩ := exists_lowercaseAfter_cons [] cs c
  rw [lowercase, hcons]
  rcases hmapped with rfl | ⟨-, rfl | rfl⟩ <;> simp [lower_ne_nil]

/-- A text is lowered word by word. -/
theorem words_lowercase (cs : List Char) : words (lowercase cs) = (words cs).map lowercase := by
  induction hlen : cs.length using Nat.strong_induction_on generalizing cs with
  | _ n ih =>
    rcases exists_first_separator isBlank cs with hnone | ⟨left, b, right, rfl, hleft, hb⟩
    · rcases eq_or_ne cs [] with rfl | hne
      · rfl
      · rw [words_eq_singleton hne hnone, words_eq_singleton (lowercase_ne_nil hne)
          fun _ hd => isBlank_of_mem_lowercaseAfter hnone hd]
        rfl
    · have hshorter : left.length < n ∧ right.length < n := by
        simp at hlen
        omega
      rw [lowercase_append_cons hb, words_append_cons hb, words_append_cons hb, List.map_append,
        ih _ hshorter.1 left rfl, ih _ hshorter.2 right rfl]

theorem normalChars_eq_words (cs : List Char) :
    normalChars cs = join [' '] (cut ((words cs).map lowercase)) := by
  rw [normalChars_eq, words_lowercase]

/-! ### Trimmed texts -/

theorem words_cons_blank {b : Char} (hb : isBlank b = true) (cs : List Char) :
    words (b :: cs) = words cs :=
  words_append_cons hb [] cs

theorem words_append_blank {b : Char} (hb : isBlank b = true) (cs : List Char) :
    words (cs ++ [b]) = words cs := by
  rw [words_append_cons hb]
  exact List.append_nil _

theorem words_dropWhile (cs : List Char) : words (cs.dropWhile isBlank) = words cs := by
  induction cs with
  | nil => rfl
  | cons c cs ih =>
    cases hc : isBlank c with
    | true => rw [List.dropWhile_cons_of_pos hc, ih, words_cons_blank hc]
    | false => rw [List.dropWhile_cons_of_neg (by simp [hc])]

theorem words_trimEnd (cs : List Char) : words (trimEnd cs) = words cs := by
  induction cs using List.reverseRecOn with
  | nil => rfl
  | append_singleton cs c ih =>
    cases hc : isBlank c with
    | true => rw [trimEnd_append_singleton hc, ih, words_append_blank hc]
    | false =>
      rw [trimEnd, List.reverse_append, List.reverse_singleton, List.singleton_append,
        List.dropWhile_cons_of_neg (by simp [hc]), List.reverse_cons, List.reverse_reverse]

theorem words_trim (cs : List Char) : words (trim cs) = words cs := by
  rw [trim, words_trimEnd, words_dropWhile]

/-- The blanks around a line do not show in its normal form. -/
theorem normal_trim (cs : List Char) :
    normal (String.ofList (trim cs)) = normal (String.ofList cs) := by
  rw [normal, normal, String.toList_ofList, String.toList_ofList, normalChars_eq_words,
    normalChars_eq_words, words_trim]

theorem trim_eq_nil_iff (cs : List Char) : trim cs = [] ↔ ∀ c ∈ cs, isBlank c = true := by
  rw [trim, trimEnd, List.reverse_eq_nil_iff, List.dropWhile_eq_nil_iff]
  simp only [List.mem_reverse]
  constructor
  · intro hrest
    have hnil : cs.dropWhile isBlank = [] := by
      by_contra hne
      have hhead := List.head_dropWhile_not isBlank hne
      rw [hrest _ (List.head_mem hne)] at hhead
      cases hhead
    exact List.dropWhile_eq_nil_iff.1 hnil
  · exact fun hall c hc => hall c ((List.dropWhile_suffix isBlank).subset hc)

/-! ### Lines -/

/-- The lines of a block. A line ends with a line feed, or a carriage return and a line feed,
which the last may lack. Any other carriage return is a character of its line. -/
def lines : List Char → List (List Char)
  | [] => []
  | '\n' :: rest => [] :: lines rest
  | '\r' :: '\n' :: rest => [] :: lines rest
  | c :: rest =>
    match lines rest with
    | [] => [[c]]
    | line :: more => (c :: line) :: more

/-- The pieces between line feeds are the lines, some with the carriage return that belongs to
their ending, and an empty one after a final line feed. -/
theorem forall₂_pieces_lines (cs : List Char) :
    ∃ rest ∈ [[], [[]]], List.Forall₂ (fun piece line => piece = line ∨ piece = line ++ ['\r'])
      (pieces (· == '\n') cs) (lines cs ++ rest) := by
  fun_induction lines cs with
  | case1 => exact ⟨[[]], by simp, .cons (.inl rfl) .nil⟩
  | case2 cs ih =>
    obtain ⟨rest, hrest, hlines⟩ := ih
    exact ⟨rest, hrest, .cons (.inl rfl) hlines⟩
  | case3 cs ih =>
    obtain ⟨rest, hrest, hlines⟩ := ih
    exact ⟨rest, hrest, .cons (.inr rfl) hlines⟩
  | case4 c cs hfeed hreturn hnone ih =>
    obtain ⟨rest, hrest, hlines⟩ := ih
    rw [hnone, List.nil_append] at hlines
    have hpiece : (c == '\n') = false := beq_false_of_ne hfeed
    -- The piece that is left has no line yet, and the character begins one.
    rcases List.mem_cons.1 hrest with rfl | hrest
    · exact absurd (List.forall₂_nil_right_iff.1 hlines) (pieces_ne_nil _ cs)
    · rw [List.mem_singleton.1 hrest] at hlines
      obtain ⟨piece, more, hfirst, hmore, hpieces⟩ := List.forall₂_cons_right_iff.1 hlines
      rw [List.forall₂_nil_right_iff.1 hmore] at hpieces
      refine ⟨[], by simp, ?_⟩
      simp only [pieces, hpiece, hpieces, Bool.false_eq_true, if_false, List.append_nil]
      exact .cons (hfirst.imp (congrArg (c :: ·)) (congrArg (c :: ·))) .nil
  | case5 c cs hfeed hreturn line more hmore ih =>
    obtain ⟨rest, hrest, hlines⟩ := ih
    rw [hmore, List.cons_append] at hlines
    have hpiece : (c == '\n') = false := beq_false_of_ne hfeed
    obtain ⟨piece, others, hfirst, hothers, hpieces⟩ := List.forall₂_cons_right_iff.1 hlines
    refine ⟨rest, hrest, ?_⟩
    simp only [pieces, hpiece, hpieces, Bool.false_eq_true, if_false, List.cons_append]
    exact .cons (hfirst.imp (congrArg (c :: ·)) (congrArg (c :: ·))) hothers

/-- Whether a line holds nothing but blanks. -/
def isBlankLine (line : List Char) : Bool :=
  line.all isBlank

/-- The lines that are read of a block are those that are not blank, without the blanks around
them. -/
theorem nonblankLines_eq (text : String) :
    nonblankLines text =
      ((lines text.toList).filter (!isBlankLine ·)).map fun line => String.ofList (trim line) := by
  obtain ⟨rest, hrest, hlines⟩ := forall₂_pieces_lines text.toList
  have htrim :
      (pieces (· == '\n') text.toList).map trim = (lines text.toList ++ rest).map trim := by
    rw [← List.forall₂_eq_eq_eq, List.forall₂_map_left_iff, List.forall₂_map_right_iff]
    refine hlines.imp fun piece line hpiece => ?_
    rcases hpiece with rfl | rfl
    · rfl
    · exact trim_append_singleton (by decide) line
  have hrest' : (rest.map trim).filter (· ≠ []) = [] := by
    rcases List.mem_cons.1 hrest with rfl | hrest
    · rfl
    · rw [List.mem_singleton.1 hrest]
      rfl
  have htest : ((fun line => decide (line ≠ [])) ∘ trim) = (!isBlankLine ·) := by
    funext line
    rw [Bool.eq_iff_iff]
    simp [isBlankLine, trim_eq_nil_iff]
  rw [nonblankLines, htrim, List.map_append, List.filter_append, hrest', List.append_nil,
    List.filter_map, htest, List.map_map]
  rfl

/-- The lines that are read of two blocks with a line feed between them are those of the first
and then those of the second. -/
theorem nonblankLines_append (a b : String) :
    nonblankLines (a ++ "\n" ++ b) = nonblankLines a ++ nonblankLines b := by
  have hcut : pieces (· == '\n') (a ++ "\n" ++ b).toList =
      pieces (· == '\n') a.toList ++ pieces (· == '\n') b.toList := by
    rw [String.toList_append, String.toList_append, List.append_assoc]
    exact pieces_append_cons (by rfl) _ _
  simp only [nonblankLines, hcut, List.map_append, List.filter_append]

end Text

end Loadout
