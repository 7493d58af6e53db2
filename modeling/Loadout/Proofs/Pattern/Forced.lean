import Loadout.Proofs.Line.Numeral
import Loadout.Proofs.Pattern.Written

/-!
# Searches that have one way to go

Which of several places a search prefers does not matter when its continuation accepts one of
them at most. The search then comes to what the continuation makes of that place, and a pattern
of several parts is followed from part to part along the text. So it is with a literal text, with
a numeral up to a character that no numeral has, and with one of several words.

## Main definitions

* `Pattern.literalThen`: a text and then a pattern, as the reader makes them
* `Pattern.oneOf`: one of several texts, as the reader makes it

## Main results

* `Pattern.Spans.run_eq`: a search with one way to go
* `Pattern.run_literalThen`, `Pattern.run_optional`, `Pattern.run_group_numeral`,
  `Pattern.run_group_oneOf`: the parts that lines are made of
-/

namespace Loadout

namespace Pattern

open PatternReader

/-- Where a pattern consumes one beginning of a text at most such that its continuation accepts
what is left, it is as if it consumed that one. -/
theorem Spans.run_eq {P : Pattern} {S : Spelling} (h : P.Spans S) (cs : List Char)
    (captures : List (Nat × List Char)) {k : Continuation} {before rest : List Char}
    {earlier : List (Nat × List Char)} (hS : S cs captures)
    (hunique : ∀ cs' captures' rest', cs ++ rest = cs' ++ rest' → S cs' captures' →
      (k ⟨cs'.reverse ++ before, rest', captures' ++ earlier⟩).isSome →
        cs' = cs ∧ captures' = captures) :
    P.run k ⟨before, cs ++ rest, earlier⟩ =
      k ⟨cs.reverse ++ before, rest, captures ++ earlier⟩ := by
  cases hrun : P.run k ⟨before, cs ++ rest, earlier⟩ with
  | none =>
    have hleads : P.Leads ⟨before, cs ++ rest, earlier⟩
        ⟨cs.reverse ++ before, rest, captures ++ earlier⟩ :=
      (h _ _).2 ⟨cs, captures, rest, rfl, hS, rfl⟩
    rw [eq_comm, ← Option.not_isSome_iff_eq_none]
    intro hk
    have hfound := (explores_run P).complete hleads hk
    rw [hrun] at hfound
    cases hfound
  | some r =>
    obtain ⟨q, hq, hk⟩ := (explores_run P).sound hrun
    obtain ⟨cs', captures', rest', hrest, hS', rfl⟩ := (h _ _).1 hq
    obtain ⟨rfl, rfl⟩ := hunique cs' captures' rest' hrest hS' (by rw [hk]; rfl)
    rw [← List.append_cancel_left hrest] at hk
    exact hk.symm

theorem Spans.alt_plain {P Q : Pattern} {L M : List Char → Prop} (hP : P.Spans (.plain L))
    (hQ : Q.Spans (.plain M)) : (P.alt Q).Spans (.plain fun cs => L cs ∨ M cs) := by
  intro p q
  constructor
  · rintro (h | h)
    · obtain ⟨cs, captures, rest, hrest, ⟨hL, hnone⟩, hq⟩ := (hP p q).1 h
      exact ⟨cs, captures, rest, hrest, ⟨.inl hL, hnone⟩, hq⟩
    · obtain ⟨cs, captures, rest, hrest, ⟨hM, hnone⟩, hq⟩ := (hQ p q).1 h
      exact ⟨cs, captures, rest, hrest, ⟨.inr hM, hnone⟩, hq⟩
  · rintro ⟨cs, captures, rest, hrest, ⟨hL | hM, hnone⟩, hq⟩
    · exact .inl ((hP p q).2 ⟨cs, captures, rest, hrest, ⟨hL, hnone⟩, hq⟩)
    · exact .inr ((hQ p q).2 ⟨cs, captures, rest, hrest, ⟨hM, hnone⟩, hq⟩)

/-- A search that leads on from the start of a text is a match there. -/
theorem exists_find?_of_run {P : Pattern} {text : List Char} {q : Place}
    (h : P.run some (.start text) = some q) :
    ∃ m, P.find? text = some m ∧ m.captures = q.captures := by
  have hmatch : P.matchAt? ⟨[], text, []⟩ =
      some ⟨[], q.since (.start text), q.rest, q.captures⟩ :=
    congrArg (Option.map _) h
  refine ⟨⟨[], q.since (.start text), q.rest, q.captures⟩, ?_, rfl⟩
  unfold find? findAfter?
  rw [hmatch]

/-! ### Literal texts -/

/-- A text as it stands and then a pattern, as the reader makes them. -/
def literalThen (text : List Char) (next : Pattern) : Pattern :=
  text.foldr (fun c rest => followedBy (.char (.one c)) rest) next

theorem run_literalThen_cons (c : Char) (text : List Char) (next : Pattern) (k : Continuation)
    (p : Place) :
    (literalThen (c :: text) next).run k p =
      (char (.one c)).run ((literalThen text next).run k) p :=
  congrFun (run_followedBy _ _ k) p

/-- A text that is there is consumed. -/
theorem run_literalThen (text : List Char) (next : Pattern) (k : Continuation)
    (before rest : List Char) (captures : List (Nat × List Char)) :
    (literalThen text next).run k ⟨before, text ++ rest, captures⟩ =
      next.run k ⟨text.reverse ++ before, rest, captures⟩ := by
  induction text generalizing before with
  | nil => rfl
  | cons c text ih =>
    rw [run_literalThen_cons, List.reverse_cons, List.append_assoc]
    simp only [run, List.cons_append, CharSet.contains, beq_self_eq_true, if_true]
    exact ih _

theorem run_literalThen_end (text : List Char) (next : Pattern) (k : Continuation)
    (before : List Char) (captures : List (Nat × List Char)) :
    (literalThen text next).run k ⟨before, text, captures⟩ =
      next.run k ⟨text.reverse ++ before, [], captures⟩ := by
  simpa only [List.append_nil] using run_literalThen text next k before [] captures

/-- A text is consumed only where its first character is next. -/
theorem head?_of_run_literalThen {text : List Char} {c : Char} (hc : text.head? = some c)
    {next : Pattern} {k : Continuation} {p : Place}
    (h : ((literalThen text next).run k p).isSome) : p.rest.head? = some c := by
  obtain ⟨more, rfl⟩ := List.head?_eq_some_iff.1 hc
  rw [run_literalThen_cons] at h
  simp only [run] at h
  split at h
  case h_1 d rest hrest =>
    split at h
    case isTrue hd => rw [hrest, List.head?_cons, beq_iff_eq.1 hd]
    case isFalse => cases h
  case h_2 => cases h

theorem leads_followedBy (first second : Pattern) {p q : Place} :
    (followedBy first second).Leads p q ↔ (seq first second).Leads p q := by
  cases second with
  | empty => simp [followedBy, Leads]
  | _ => rfl

/-- A text that the reader made alone consumes what the text consumes. -/
theorem spans_literalThen_empty (text : List Char) :
    (literalThen text .empty).Spans (.plain (· = text)) := by
  have hliteral (p q : Place) : (literalThen text .empty).Leads p q ↔ (literal text).Leads p q := by
    induction text generalizing p with
    | nil => rfl
    | cons c text ih =>
      exact (leads_followedBy _ _).trans (exists_congr fun m => and_congr_right fun _ => ih m)
  exact fun p q => (hliteral p q).trans (spans_literal text p q)

/-- A text that may be there is consumed where it is, unless the continuation accepts it. -/
theorem run_optional {text rest : List Char} {k : Continuation}
    (hk : ∀ q, q.rest = text ++ rest → k q = none) (before : List Char)
    (captures : List (Nat × List Char)) :
    (Pattern.repeated (literalThen text .empty) 0 (some 1) true).run k
        ⟨before, text ++ rest, captures⟩ =
      k ⟨text.reverse ++ before, rest, captures⟩ := by
  have hoptional := (spans_literalThen_empty text).optional_plain true
  refine hoptional.run_eq text [] ⟨.inl rfl, rfl⟩ ?_
  rintro _ _ rest' hsame ⟨rfl | rfl, rfl⟩ hsome
  · exact ⟨rfl, rfl⟩
  · rw [hk _ hsame.symm] at hsome
    cases hsome

theorem run_optional_of_absent {text rest : List Char} (h : ¬ text <+: rest)
    (k : Continuation) (before : List Char) (captures : List (Nat × List Char)) :
    (Pattern.repeated (literalThen text .empty) 0 (some 1) true).run k ⟨before, rest, captures⟩ =
      k ⟨before, rest, captures⟩ := by
  have hoptional := (spans_literalThen_empty text).optional_plain true
  refine hoptional.run_eq [] [] ⟨.inr rfl, rfl⟩ ?_
  rintro _ _ rest' hsame ⟨rfl | rfl, rfl⟩ -
  · exact absurd ⟨rest', hsame.symm⟩ h
  · exact ⟨rfl, rfl⟩

/-! ### Numerals -/

/-- Numeric characters before one that is not numeric are determined by the text. -/
theorem append_inj_of_isNumeric {a b rest rest' : List Char} (ha : ∀ c ∈ a, isNumeric c = true)
    (hb : ∀ c ∈ b, isNumeric c = true) (hrest : ∃ c ∈ rest.head?, isNumeric c = false)
    (hrest' : ∃ c ∈ rest'.head?, isNumeric c = false) (h : a ++ rest = b ++ rest') :
    a = b ∧ rest = rest' := by
  have hstop {rest : List Char} (hrest : ∃ c ∈ rest.head?, isNumeric c = false) :
      rest.takeWhile isNumeric = [] := by
    obtain ⟨c, hc, hfalse⟩ := hrest
    obtain ⟨more, rfl⟩ := List.head?_eq_some_iff.1 hc
    rw [List.takeWhile_cons_of_neg (by simp [hfalse])]
  have hsame : a = b := by
    have htake := congrArg (List.takeWhile isNumeric) h
    rwa [List.takeWhile_append_of_pos ha, List.takeWhile_append_of_pos hb, hstop hrest,
      hstop hrest', List.append_nil, List.append_nil] at htake
  subst hsame
  exact ⟨rfl, List.append_cancel_left h⟩

/-- A numeral is captured as a whole where what comes next begins with a character that is not
numeric. -/
theorem run_group_numeral {k : Continuation}
    (hk : ∀ q, (k q).isSome → ∃ c ∈ q.rest.head?, isNumeric c = false) (slot : Nat)
    {n rest : List Char} (hn : Numeral ['+', '-'] n)
    (hrest : ∃ c ∈ rest.head?, isNumeric c = false) (before : List Char)
    (captures : List (Nat × List Char)) :
    (group slot numeral).run k ⟨before, n ++ rest, captures⟩ =
      k ⟨n.reverse ++ before, rest, (slot, n) :: captures⟩ := by
  refine (spans_numeral.group slot).run_eq n [(slot, n)] ⟨[], ⟨hn, rfl⟩, rfl⟩ ?_
  rintro n' _ rest' htext ⟨_, ⟨hn', rfl⟩, rfl⟩ hsome
  obtain ⟨rfl, -⟩ :=
    append_inj_of_isNumeric hn.isNumeric hn'.isNumeric hrest (hk _ hsome) htext
  exact ⟨rfl, rfl⟩

/-! ### One of several texts -/

/-- One of several texts, as the reader makes it. -/
def oneOf : List (List Char) → Pattern
  | [] => .empty
  | [text] => literalThen text .empty
  | text :: more => .alt (literalThen text .empty) (oneOf more)

theorem spans_oneOf {texts : List (List Char)} (hne : texts ≠ []) :
    (oneOf texts).Spans (.plain (· ∈ texts)) := by
  induction texts with
  | nil => exact absurd rfl hne
  | cons text more ih =>
    cases more with
    | nil =>
      refine (spans_literalThen_empty text).congr fun cs captures => and_congr_left' ?_
      exact List.mem_singleton.symm
    | cons next more =>
      refine ((spans_literalThen_empty text).alt_plain (ih (by simp))).congr
        fun cs captures => and_congr_left' ?_
      exact List.mem_cons.symm

/-- One of several texts, none of which begins another, is captured where it stands. -/
theorem run_group_oneOf {texts : List (List Char)} {text : List Char} (htext : text ∈ texts)
    (hfree : ∀ a ∈ texts, ∀ b ∈ texts, a <+: b → a = b) (slot : Nat) (k : Continuation)
    (before rest : List Char) (captures : List (Nat × List Char)) :
    (group slot (oneOf texts)).run k ⟨before, text ++ rest, captures⟩ =
      k ⟨text.reverse ++ before, rest, (slot, text) :: captures⟩ := by
  refine ((spans_oneOf (List.ne_nil_of_mem htext)).group slot).run_eq text [(slot, text)]
    ⟨[], ⟨htext, rfl⟩, rfl⟩ ?_
  rintro other _ rest' hsame ⟨_, ⟨hother, rfl⟩, rfl⟩ -
  have heq : other = text := by
    rcases List.prefix_or_prefix_of_prefix (List.prefix_append text rest)
      (hsame ▸ List.prefix_append other rest') with h | h
    · exact (hfree _ htext _ hother h).symm
    · exact hfree _ hother _ htext h
  subst heq
  exact ⟨rfl, rfl⟩

end Pattern

end Loadout
