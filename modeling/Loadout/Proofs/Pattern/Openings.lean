import Loadout.Proofs.Pattern.Leads

/-!
# How a match begins

A match that consumes anything consumes a first character. Which characters these may be is read
off the pattern, and so is whether it may lead on without consuming anything. Both are said
generously: an anchor is taken to hold. A pattern that is bound to the start of the text and that
neither idles nor begins with the first character of the text is therefore not found, whatever
the rest of the text is.

## Main definitions

* `Pattern.idles`: a pattern may lead on without consuming anything
* `Pattern.begins`: a pattern may consume a character first
* `Pattern.turnsAway`: a pattern cannot match a text that begins with a character

## Main results

* `Pattern.Leads.opens`: what is led over is nothing, or it begins with one of these characters
* `Pattern.find?_eq_none_of_turnsAway`: a text with another first character is not matched
-/

namespace Loadout

namespace Pattern

/-- Whether a pattern may lead on without consuming anything. -/
def idles : Pattern → Bool
  | empty => true
  | char _ => false
  | anchor _ => true
  | group _ body => body.idles
  | seq first second => first.idles && second.idles
  | alt left right => left.idles || right.idles
  | repeated body least _ _ => least == 0 || body.idles

/-- Whether a pattern may consume a character first. -/
def begins (c : Char) : Pattern → Bool
  | empty => false
  | char s => s.contains c
  | anchor _ => false
  | group _ body => body.begins c
  | seq first second => first.begins c || (first.idles && second.begins c)
  | alt left right => left.begins c || right.begins c
  | repeated body _ _ _ => body.begins c

/-- Nothing lies between two places, if that is allowed, or what follows the first begins with a
character of a set. -/
def Opens (idle : Bool) (first : Char → Bool) (p q : Place) : Prop :=
  (idle = true ∧ q.rest = p.rest) ∨ ∃ c ∈ p.rest.head?, first c = true

theorem Opens.mono {idle idle' : Bool} {first first' : Char → Bool} {p q : Place}
    (h : Opens idle first p q) (hidle : idle = true → idle' = true)
    (hfirst : ∀ c, first c = true → first' c = true) : Opens idle' first' p q :=
  h.imp (And.imp_left hidle) fun ⟨c, hc, hbegins⟩ => ⟨c, hc, hfirst c hbegins⟩

section Rounds

variable {R : Place → Place → Prop} {idle : Bool} {first : Char → Bool}
  (hR : ∀ {p q : Place}, R p q → Opens idle first p q) {p q : Place}

include hR

/-- Rounds that all idle leave the text as it is, and the first one that does not begins it. -/
theorem Rounds.opens {n : Nat} (h : Rounds R n p q) : Opens (n == 0 || idle) first p q := by
  induction n generalizing p with
  | zero => exact .inl ⟨rfl, congrArg Place.rest h⟩
  | succ n ih =>
    obtain ⟨m, hm, hq⟩ := h
    rcases hR hm with ⟨hidle, hsame⟩ | hbegins
    · rcases ih hq with ⟨-, hrest⟩ | hbegins
      · exact .inl ⟨by simp [hidle], hrest.trans hsame⟩
      · exact .inr (hsame ▸ hbegins)
    · exact .inr hbegins

theorem OneOrMore.opens (h : OneOrMore R p q) : Opens idle first p q := by
  obtain ⟨m, hm, hmore⟩ := h
  rcases hR hm with ⟨hidle, hsame⟩ | hbegins
  · rcases hmore with ⟨hshrinks, -⟩ | ⟨-, rfl⟩
    · exact absurd hshrinks (by rw [hsame]; exact Nat.lt_irrefl _)
    · exact .inl ⟨hidle, hsame⟩
  · exact .inr hbegins

end Rounds

/-- A pattern that leads on idles or begins the text. -/
theorem Leads.opens {P : Pattern} {p q : Place} (h : P.Leads p q) :
    Opens P.idles P.begins p q := by
  induction P generalizing p q with
  | empty => exact .inl ⟨rfl, congrArg Place.rest h⟩
  | char s =>
    obtain ⟨c, rest, hrest, hc, -⟩ := h
    exact .inr ⟨c, by rw [hrest]; rfl, hc⟩
  | anchor a => exact .inl ⟨rfl, congrArg Place.rest h.2⟩
  | group slot body ih =>
    obtain ⟨m, hm, rfl⟩ := h
    have hbody : Opens body.idles body.begins p m := ih hm
    exact hbody
  | seq first second ihFirst ihSecond =>
    obtain ⟨m, hm, hq⟩ := h
    rcases ihFirst hm with ⟨hidle, hsame⟩ | ⟨c, hc, hbegins⟩
    · rcases ihSecond hq with ⟨hidle', hrest⟩ | ⟨c, hc, hbegins⟩
      · exact .inl ⟨by simp [idles, hidle, hidle'], hrest.trans hsame⟩
      · exact .inr ⟨c, hsame ▸ hc, by simp [begins, hidle, hbegins]⟩
    · exact .inr ⟨c, hc, by simp [begins, hbegins]⟩
  | alt left right ihLeft ihRight =>
    rcases h with h | h
    · exact (ihLeft h).mono (fun hidle => by simp [idles, hidle]) fun c hc => by simp [begins, hc]
    · exact (ihRight h).mono (fun hidle => by simp [idles, hidle]) fun c hc => by simp [begins, hc]
  | repeated body least most greedy ih =>
    match least, most with
    | least, some most =>
      obtain ⟨n, hleast, -, hq⟩ := h
      refine (Rounds.opens ih hq).mono (fun hidle => ?_) fun c hc => hc
      simp only [Bool.or_eq_true, beq_iff_eq] at hidle
      simp only [idles, Bool.or_eq_true, beq_iff_eq]
      exact hidle.imp_left fun hn : n = 0 => Nat.le_zero.1 (hn ▸ hleast)
    | 0, none =>
      rcases h with h | rfl
      · exact (OneOrMore.opens ih h).mono (fun _ => rfl) fun c hc => hc
      · exact .inl ⟨rfl, rfl⟩
    | n + 1, none =>
      obtain ⟨m, hm, hq⟩ := h
      rcases Rounds.opens ih hm with ⟨-, hsame⟩ | hbegins
      · rcases OneOrMore.opens ih hq with ⟨hidle, hrest⟩ | hbegins
        · exact .inl ⟨by simp [idles, hidle], hrest.trans hsame⟩
        · exact .inr (hsame ▸ hbegins)
      · exact .inr hbegins

/-- Whether a pattern is bound to the start of the text and cannot begin with a character. -/
def turnsAway (c : Char) : Pattern → Bool
  | seq (anchor .textStart) rest => !rest.idles && !rest.begins c
  | _ => false

/-- What turns away the first character of a text is not found in the text. -/
theorem find?_eq_none_of_turnsAway {P : Pattern} {c : Char} (h : P.turnsAway c = true)
    (rest : List Char) : P.find? (c :: rest) = none := by
  unfold turnsAway at h
  split at h
  case h_1 body =>
    rw [Bool.and_eq_true, Bool.not_eq_true', Bool.not_eq_true'] at h
    refine findAfter?_eq_none_iff.2 fun skipped more q htext hleads => ?_
    obtain ⟨m, ⟨hstart, rfl⟩, hq⟩ := hleads
    have hskipped : skipped = [] := by simpa using List.isEmpty_iff.1 hstart
    subst hskipped
    rcases hq.opens with ⟨hidles, -⟩ | ⟨d, hd, hbegins⟩
    · rw [h.1] at hidles
      cases hidles
    · rw [show more = c :: rest from htext.symm] at hd
      obtain rfl : c = d := Option.some.inj hd
      exact absurd hbegins (by simp [h.2])
  case h_2 => cases h

end Pattern

end Loadout
