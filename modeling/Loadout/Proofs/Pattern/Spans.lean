import Loadout.Proofs.Pattern.Leads

/-!
# What patterns consume

A pattern without anchors does not care where it starts. It leads on by a text that it consumes,
and what its groups capture is part of that text. So it is described by the texts with their
captures, and the description of a pattern is put together from those of its parts. A pattern with
anchors is not described like this, but what remains of the text only gets shorter for it too, so a
match of any pattern and what stands around it make up the text.

## Main definitions

* `Spelling`: texts, with what groups capture by consuming them
* `Pattern.Spans`: a pattern consumes the texts of a spelling

## Main results

* `Pattern.Spans.seq`, `Pattern.Spans.group`, `Pattern.Spans.optional`
* `Pattern.spans_literal`: a pattern for a text as it stands
* `Pattern.spans_run`: a pattern for characters of a set, one at least
* `Pattern.eq_of_find?`: a match and what stands around it make up the text
-/

namespace Loadout

/-- Texts, each with what groups capture by consuming it, latest first. -/
abbrev Spelling := List Char → List (Nat × List Char) → Prop

namespace Spelling

/-- Texts of a language, without captures. -/
def plain (L : List Char → Prop) : Spelling :=
  fun cs captures => L cs ∧ captures = []

/-- One text after the other. -/
def seq (S T : Spelling) : Spelling := fun cs captures =>
  ∃ cs₁ captures₁ cs₂ captures₂, S cs₁ captures₁ ∧ T cs₂ captures₂ ∧
    cs = cs₁ ++ cs₂ ∧ captures = captures₂ ++ captures₁

/-- A text that is captured under a number. -/
def group (slot : Nat) (S : Spelling) : Spelling := fun cs captures =>
  ∃ inner, S cs inner ∧ captures = (slot, cs) :: inner

/-- A text of a spelling, or nothing. -/
def optional (S : Spelling) : Spelling := fun cs captures =>
  S cs captures ∨ cs = [] ∧ captures = []

end Spelling

namespace Pattern

/-- A pattern leads exactly over the texts of a spelling, wherever it starts. -/
def Spans (P : Pattern) (S : Spelling) : Prop :=
  ∀ p q, P.Leads p q ↔ ∃ cs captures rest, p.rest = cs ++ rest ∧ S cs captures ∧
    q = ⟨cs.reverse ++ p.before, rest, captures ++ p.captures⟩

variable {P Q : Pattern} {S T : Spelling}

theorem Spans.congr (h : P.Spans S) (heq : ∀ cs captures, S cs captures ↔ T cs captures) :
    P.Spans T := by
  intro p q
  simp only [h p q, heq]

theorem spans_empty : empty.Spans (.plain (· = [])) := by
  intro p q
  constructor
  · rintro rfl
    exact ⟨[], [], q.rest, rfl, ⟨rfl, rfl⟩, rfl⟩
  · rintro ⟨cs, captures, rest, hrest, ⟨rfl, rfl⟩, rfl⟩
    obtain ⟨before, rest', captures⟩ := p
    rw [show rest' = rest from hrest]
    rfl

theorem spans_char (s : CharSet) :
    (char s).Spans (.plain fun cs => ∃ c, s.contains c = true ∧ cs = [c]) := by
  intro p q
  constructor
  · rintro ⟨c, rest, hrest, hc, rfl⟩
    exact ⟨[c], [], rest, hrest, ⟨⟨c, hc, rfl⟩, rfl⟩, rfl⟩
  · rintro ⟨cs, captures, rest, hrest, ⟨⟨c, hc, rfl⟩, rfl⟩, rfl⟩
    exact ⟨c, rest, hrest, hc, rfl⟩

theorem Spans.seq (hP : P.Spans S) (hQ : Q.Spans T) : (P.seq Q).Spans (S.seq T) := by
  intro p q
  constructor
  · rintro ⟨m, hm, hq⟩
    obtain ⟨cs, captures, rest, hrest, hS, rfl⟩ := (hP _ _).1 hm
    obtain ⟨cs', captures', rest', hrest', hT, rfl⟩ := (hQ _ _).1 hq
    dsimp only at hrest'
    refine ⟨cs ++ cs', captures' ++ captures, rest', ?_,
      ⟨cs, captures, cs', captures', hS, hT, rfl, rfl⟩, by simp⟩
    rw [hrest, hrest', List.append_assoc]
  · rintro ⟨_, _, rest, hrest, ⟨cs, captures, cs', captures', hS, hT, rfl, rfl⟩, rfl⟩
    rw [List.append_assoc] at hrest
    refine ⟨_, (hP _ _).2 ⟨cs, captures, _, hrest, hS, rfl⟩, (hQ _ _).2 ?_⟩
    exact ⟨cs', captures', rest, rfl, hT, by simp⟩

theorem since_eq {p q : Place} {cs : List Char} (h : p.rest = cs ++ q.rest) : q.since p = cs := by
  rw [Place.since, h, List.length_append, Nat.add_sub_cancel, List.take_left]

theorem Spans.group (hP : P.Spans S) (slot : Nat) : (P.group slot).Spans (S.group slot) := by
  intro p q
  constructor
  · rintro ⟨m, hm, rfl⟩
    obtain ⟨cs, captures, rest, hrest, hS, rfl⟩ := (hP _ _).1 hm
    refine ⟨cs, (slot, cs) :: captures, rest, hrest, ⟨captures, hS, rfl⟩, ?_⟩
    rw [Place.capture, since_eq hrest]
    rfl
  · rintro ⟨cs, _, rest, hrest, ⟨captures, hS, rfl⟩, rfl⟩
    refine ⟨_, (hP _ _).2 ⟨cs, captures, rest, hrest, hS, rfl⟩, ?_⟩
    rw [Place.capture, since_eq hrest]
    rfl

theorem Spans.optional (hP : P.Spans S) (greedy : Bool) :
    (P.repeated 0 (some 1) greedy).Spans S.optional := by
  have hstop := spans_empty
  intro p q
  constructor
  · rintro ⟨n, -, hn, hq⟩
    match n with
    | 0 =>
      obtain ⟨cs, captures, rest, hrest, hnone, hq⟩ := (hstop p q).1 hq
      exact ⟨cs, captures, rest, hrest, .inr hnone, hq⟩
    | 1 =>
      obtain ⟨m, hm, rfl⟩ := hq
      obtain ⟨cs, captures, rest, hrest, hS, hq⟩ := (hP _ _).1 hm
      exact ⟨cs, captures, rest, hrest, .inl hS, hq⟩
    | n + 2 => omega
  · rintro ⟨cs, captures, rest, hrest, hS | hnone, hq⟩
    · exact ⟨1, by omega, by omega, q, (hP _ _).2 ⟨cs, captures, rest, hrest, hS, hq⟩, rfl⟩
    · exact ⟨0, by omega, by omega, (hstop p q).2 ⟨cs, captures, rest, hrest, hnone, hq⟩⟩

theorem Spans.seq_plain {L M : List Char → Prop} (hP : P.Spans (.plain L))
    (hQ : Q.Spans (.plain M)) :
    (P.seq Q).Spans (.plain fun cs => ∃ left right, L left ∧ M right ∧ cs = left ++ right) := by
  refine (hP.seq hQ).congr fun cs captures => ?_
  constructor
  · rintro ⟨left, _, right, _, ⟨hleft, rfl⟩, ⟨hright, rfl⟩, rfl, rfl⟩
    exact ⟨⟨left, right, hleft, hright, rfl⟩, rfl⟩
  · rintro ⟨⟨left, right, hleft, hright, rfl⟩, rfl⟩
    exact ⟨left, [], right, [], ⟨hleft, rfl⟩, ⟨hright, rfl⟩, rfl, rfl⟩

theorem Spans.optional_plain {L : List Char → Prop} (hP : P.Spans (.plain L)) (greedy : Bool) :
    (P.repeated 0 (some 1) greedy).Spans (.plain fun cs => L cs ∨ cs = []) :=
  (hP.optional greedy).congr fun _ _ => or_and_right.symm

/-- A pattern for a text as it stands. -/
theorem spans_literal (text : List Char) : (literal text).Spans (.plain (· = text)) := by
  induction text with
  | nil => exact spans_empty
  | cons c text ih =>
    refine ((spans_char (.one c)).seq_plain ih).congr fun cs captures => and_congr_left' ?_
    constructor
    · rintro ⟨_, _, ⟨d, hd, rfl⟩, rfl, rfl⟩
      rw [beq_iff_eq.1 hd]
      rfl
    · rintro rfl
      exact ⟨[c], text, ⟨c, beq_self_eq_true c, rfl⟩, rfl, rfl⟩

theorem reflTransGen_shrinks_char (s : CharSet) {p q : Place} :
    Relation.ReflTransGen (Shrinks (char s).Leads) p q ↔
      ∃ cs rest, p.rest = cs ++ rest ∧ (∀ c ∈ cs, s.contains c = true) ∧
        q = ⟨cs.reverse ++ p.before, rest, p.captures⟩ := by
  constructor
  · intro h
    induction h using Relation.ReflTransGen.head_induction_on with
    | refl => exact ⟨[], q.rest, rfl, by simp, rfl⟩
    | head hround _ ih =>
      obtain ⟨⟨c, rest, hrest, hc, rfl⟩, -⟩ := hround
      obtain ⟨cs, more, hmore, hcs, rfl⟩ := ih
      dsimp only at hmore
      exact ⟨c :: cs, more, by rw [hrest, hmore]; rfl, List.forall_mem_cons.2 ⟨hc, hcs⟩, by simp⟩
  · rintro ⟨cs, rest, hrest, hcs, rfl⟩
    induction cs generalizing p with
    | nil =>
      obtain ⟨before, rest', captures⟩ := p
      rw [show rest' = rest from hrest]
      exact .refl
    | cons c cs ih =>
      rw [List.forall_mem_cons] at hcs
      have hmore := ih (p := ⟨c :: p.before, cs ++ rest, p.captures⟩) rfl hcs.2
      rw [List.reverse_cons, List.append_assoc]
      refine .head ⟨⟨c, cs ++ rest, hrest, hcs.1, rfl⟩, ?_⟩ hmore
      simp [hrest]

/-- A pattern for characters of a set, one at least. -/
theorem spans_run (s : CharSet) (greedy : Bool) :
    ((char s).repeated 1 none greedy).Spans
      (.plain fun cs => cs ≠ [] ∧ ∀ c ∈ cs, s.contains c = true) := by
  intro p q
  constructor
  · rintro ⟨_, rfl, _, ⟨c, rest, hrest, hc, rfl⟩, hmore⟩
    rcases hmore with ⟨-, hmore⟩ | ⟨hsame, -⟩
    · obtain ⟨cs, more, hrest', hcs, rfl⟩ := (reflTransGen_shrinks_char s).1 hmore
      dsimp only at hrest'
      refine ⟨c :: cs, [], more, by rw [hrest, hrest']; rfl, ⟨⟨by simp, ?_⟩, rfl⟩, by simp⟩
      exact List.forall_mem_cons.2 ⟨hc, hcs⟩
    · simp [hrest] at hsame
  · rintro ⟨cs, captures, rest, hrest, ⟨⟨hne, hcs⟩, rfl⟩, rfl⟩
    obtain ⟨c, cs, rfl⟩ := List.exists_cons_of_ne_nil hne
    rw [List.forall_mem_cons] at hcs
    refine ⟨p, rfl, _, ⟨c, cs ++ rest, hrest, hcs.1, rfl⟩, .inl ⟨by simp [hrest], ?_⟩⟩
    exact (reflTransGen_shrinks_char s).2 ⟨cs, rest, rfl, hcs.2, by simp⟩

/-! ### What every pattern consumes -/

section Onward

variable {R : Place → Place → Prop} (hR : ∀ {p q : Place}, R p q → q.rest <:+ p.rest)
  {p q : Place}

include hR

theorem Rounds.suffix {n : Nat} (h : Rounds R n p q) : q.rest <:+ p.rest := by
  induction n generalizing p with
  | zero => exact h ▸ List.suffix_rfl
  | succ n ih =>
    obtain ⟨m, hm, hq⟩ := h
    exact (ih hq).trans (hR hm)

theorem OneOrMore.suffix (h : OneOrMore R p q) : q.rest <:+ p.rest := by
  obtain ⟨m, hm, ⟨-, hq⟩ | ⟨-, rfl⟩⟩ := h
  · refine List.IsSuffix.trans ?_ (hR hm)
    induction hq with
    | refl => exact List.suffix_rfl
    | tail _ hround ih => exact (hR hround.1).trans ih
  · exact hR hm

end Onward

/-- Whatever a pattern is, what remains after it is the end of what remained before. -/
theorem Leads.suffix {P : Pattern} {p q : Place} (h : P.Leads p q) : q.rest <:+ p.rest := by
  induction P generalizing p q with
  | empty => exact h ▸ List.suffix_rfl
  | char s =>
    obtain ⟨c, rest, hrest, -, rfl⟩ := h
    exact ⟨[c], hrest.symm⟩
  | anchor a => exact h.2 ▸ List.suffix_rfl
  | group slot body ih =>
    obtain ⟨m, hm, rfl⟩ := h
    have hbody : m.rest <:+ p.rest := ih hm
    exact hbody
  | seq first second ihFirst ihSecond =>
    obtain ⟨m, hm, hq⟩ := h
    exact (ihSecond hq).trans (ihFirst hm)
  | alt left right ihLeft ihRight => exact h.elim ihLeft ihRight
  | repeated body least most greedy ih =>
    match least, most with
    | _, some _ =>
      obtain ⟨n, -, -, hq⟩ := h
      exact Rounds.suffix ih hq
    | 0, none => exact h.elim (OneOrMore.suffix ih) fun hq => hq ▸ List.suffix_rfl
    | n + 1, none =>
      obtain ⟨m, hm, hq⟩ := h
      exact (OneOrMore.suffix ih hq).trans (Rounds.suffix ih hm)

/-- A match and what stands around it make up the text. -/
theorem eq_of_find? {P : Pattern} {text : List Char} {m : Match} (h : P.find? text = some m) :
    text = m.before.reverse ++ (m.text ++ m.after) := by
  obtain ⟨skipped, more, rfl, ⟨q, hq, rfl⟩, -⟩ := foundAt_of_findAfter? h
  obtain ⟨cs, hrest⟩ := hq.suffix
  rw [since_eq hrest.symm, hrest]
  simp

end Pattern

end Loadout
