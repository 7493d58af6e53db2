import Mathlib.Data.List.TakeWhile
import Loadout.Line.Phrase
import Loadout.Proofs.Pattern.Spans

/-!
# Numerals in lines

A numeral is digits of any script with or without a fraction, and a sign may stand before them.
The pattern of a number consumes exactly the numerals, and literal texts with numbers between
them consume exactly these texts interleaved with numerals, which are captured in order. Where
every literal between two numbers has a character that no numeral has, a line can be interleaved
in one way only.

## Main definitions

* `Digits`, `Magnitude`, `Numeral`: how numbers are written
* `Woven`: literal texts with fillers between neighbours
* `isNumeric`: the characters of numerals
* `numberCaptures`: numerals captured under consecutive numbers

## Main results

* `spans_numeral`, `spans_withNumerals`: what the patterns consume and capture
* `Woven.unique`: the numerals of a line are determined by its literals
-/

namespace Loadout

open Pattern

/-! ### Numerals -/

/-- Digits of any script, one at least. -/
def Digits (cs : List Char) : Prop :=
  cs ≠ [] ∧ ∀ c ∈ cs, Character.isDecimalDigit c = true

/-- Digits, with or without a fraction. -/
inductive Magnitude : List Char → Prop
  | whole {cs : List Char} (h : Digits cs) : Magnitude cs
  | fraction {cs ds : List Char} (h : Digits cs) (hfraction : Digits ds) :
    Magnitude (cs ++ '.' :: ds)

/-- A magnitude, with or without a sign before it. -/
inductive Numeral (signs : List Char) : List Char → Prop
  | unsigned {cs : List Char} (h : Magnitude cs) : Numeral signs cs
  | signed {sign : Char} {cs : List Char} (hsign : sign ∈ signs) (h : Magnitude cs) :
    Numeral signs (sign :: cs)

/-- The pattern of digits. -/
def digitsPattern : Pattern :=
  .repeated (.char (.named .digit)) 1 none true

/-- The pattern of a number with a sign of some set. -/
def signedPattern (signs : CharSet) : Pattern :=
  Pattern.sequence [
    .repeated (.char signs) 0 (some 1) true,
    digitsPattern,
    .repeated (.seq (.char (.one '.')) digitsPattern) 0 (some 1) true]

theorem spans_digitsPattern : digitsPattern.Spans (.plain Digits) :=
  spans_run _ true

theorem spans_fraction :
    ((Pattern.seq (.char (.one '.')) digitsPattern).repeated 0 (some 1) true).Spans
      (.plain fun cs => cs = [] ∨ ∃ ds, Digits ds ∧ cs = '.' :: ds) := by
  refine (((spans_char (.one '.')).seq_plain spans_digitsPattern).optional_plain true).congr
    fun cs captures => and_congr_left' ?_
  constructor
  · rintro (⟨_, ds, ⟨c, hc, rfl⟩, hds, rfl⟩ | rfl)
    · exact .inr ⟨ds, hds, by rw [beq_iff_eq.1 hc]; rfl⟩
    · exact .inl rfl
  · rintro (rfl | ⟨ds, hds, rfl⟩)
    · exact .inr rfl
    · exact .inl ⟨['.'], ds, ⟨'.', rfl, rfl⟩, hds, rfl⟩

theorem spans_magnitude :
    (digitsPattern.seq (((Pattern.seq (.char (.one '.')) digitsPattern).repeated 0 (some 1)
      true).seq .empty)).Spans (.plain Magnitude) := by
  refine (spans_digitsPattern.seq_plain (spans_fraction.seq_plain spans_empty)).congr
    fun cs captures => and_congr_left' ?_
  constructor
  · rintro ⟨whole, _, hwhole, ⟨fraction, _, hfraction, rfl, rfl⟩, rfl⟩
    rw [List.append_nil]
    rcases hfraction with rfl | ⟨ds, hds, rfl⟩
    · rw [List.append_nil]
      exact .whole hwhole
    · exact .fraction hwhole hds
  · rintro (h | @⟨whole, ds, h, hds⟩)
    · exact ⟨cs, [], h, ⟨[], [], .inl rfl, rfl, rfl⟩, (List.append_nil cs).symm⟩
    · exact ⟨whole, '.' :: ds, h, ⟨'.' :: ds, [], .inr ⟨ds, hds, rfl⟩, rfl, by simp⟩, rfl⟩

theorem spans_signedPattern {s : CharSet} {signs : List Char}
    (hs : ∀ c, s.contains c = true ↔ c ∈ signs) :
    (signedPattern s).Spans (.plain (Numeral signs)) := by
  refine (((spans_char s).optional_plain true).seq_plain spans_magnitude).congr
    fun cs captures => and_congr_left' ?_
  constructor
  · rintro ⟨_, cs, ⟨c, hc, rfl⟩ | rfl, h, rfl⟩
    · exact .signed ((hs c).1 hc) h
    · exact .unsigned h
  · rintro (h | @⟨sign, cs, hsign, h⟩)
    · exact ⟨[], cs, .inr rfl, h, rfl⟩
    · exact ⟨[sign], cs, .inl ⟨sign, (hs sign).2 hsign, rfl⟩, h, rfl⟩

theorem spans_numeral : numeral.Spans (.plain (Numeral ['+', '-'])) :=
  spans_signedPattern (s := .union (.one '+') (.one '-')) fun c => by simp [CharSet.contains]

/-! ### Characters of numerals -/

/-- Whether a character can stand in a numeral. -/
def isNumeric (c : Char) : Bool :=
  Character.isDecimalDigit c || c == '.' || c == '+' || c == '-'

theorem Magnitude.eq_digit_or_point {cs : List Char} (h : Magnitude cs) :
    ∀ c ∈ cs, Character.isDecimalDigit c = true ∨ c = '.' := by
  intro c hc
  cases h with
  | whole h => exact .inl (h.2 c hc)
  | fraction h hfraction =>
    rcases List.mem_append.1 hc with hc | hc
    · exact .inl (h.2 c hc)
    · exact (List.mem_cons.1 hc).symm.imp_left (hfraction.2 c)

theorem Magnitude.ne_nil {cs : List Char} (h : Magnitude cs) : cs ≠ [] := by
  cases h with
  | whole h => exact h.1
  | fraction => simp

theorem Numeral.isNumeric {cs : List Char} (h : Numeral ['+', '-'] cs) :
    ∀ c ∈ cs, isNumeric c = true := by
  have hmagnitude {cs : List Char} (h : Magnitude cs) : ∀ c ∈ cs, Loadout.isNumeric c = true := by
    intro c hc
    rcases h.eq_digit_or_point c hc with hc | rfl
    · simp [Loadout.isNumeric, hc]
    · decide +kernel
  cases h with
  | unsigned h => exact hmagnitude h
  | signed hsign h =>
    rw [List.forall_mem_cons]
    refine ⟨?_, hmagnitude h⟩
    rcases List.mem_cons.1 hsign with rfl | hsign
    · decide +kernel
    · rw [List.mem_singleton.1 hsign]
      decide +kernel

/-! ### Texts with fillers -/

/-- Literal texts with one filler between each and the next, put together. -/
inductive Woven : List (List Char) → List (List Char) → List Char → Prop
  | last (piece : List Char) : Woven [piece] [] piece
  | next (piece filler : List Char) {pieces fillers : List (List Char)} {text : List Char}
    (h : Woven pieces fillers text) :
    Woven (piece :: pieces) (filler :: fillers) (piece ++ (filler ++ text))

theorem not_woven_nil {fillers : List (List Char)} {text : List Char} : ¬ Woven [] fillers text :=
  nofun

theorem woven_singleton {piece text : List Char} {fillers : List (List Char)} :
    Woven [piece] fillers text ↔ fillers = [] ∧ text = piece := by
  constructor
  · intro h
    cases h with
    | last => exact ⟨rfl, rfl⟩
    | next _ _ h => exact absurd h not_woven_nil
  · rintro ⟨rfl, rfl⟩
    exact .last _

theorem woven_cons_cons {piece mid text : List Char} {pieces fillers : List (List Char)} :
    Woven (piece :: mid :: pieces) fillers text ↔ ∃ filler more rest, fillers = filler :: more ∧
      text = piece ++ (filler ++ rest) ∧ Woven (mid :: pieces) more rest := by
  constructor
  · intro h
    cases h with
    | next _ filler h => exact ⟨filler, _, _, rfl, rfl, h⟩
  · rintro ⟨filler, more, rest, rfl, rfl, h⟩
    exact .next piece filler h

/-- Numerals captured under consecutive numbers from `slot` on, latest first. -/
def numberCaptures (slot : Nat) : List (List Char) → List (Nat × List Char)
  | [] => []
  | n :: ns => numberCaptures (slot + 1) ns ++ [(slot, n)]

theorem lookup_numberCaptures (slot i : Nat) (ns : List (List Char)) :
    (numberCaptures slot ns).lookup i = if i < slot then none else ns[i - slot]? := by
  induction ns generalizing slot with
  | nil => simp [numberCaptures]
  | cons n ns ih =>
    rw [numberCaptures, List.lookup_append, ih]
    rcases Nat.lt_trichotomy i slot with hi | rfl | hi
    · rw [if_pos (by omega), if_pos hi]
      simp [List.lookup_cons, beq_eq_false_iff_ne.2 (Nat.ne_of_lt hi)]
    · simp
    · rw [if_neg (by omega), if_neg (by omega), show i - slot = i - (slot + 1) + 1 by omega]
      simp [List.lookup_cons, beq_eq_false_iff_ne.2 (Nat.ne_of_gt hi)]

/-- The pattern of literal texts with numbers between them consumes exactly these texts interleaved
with numerals, and captures the numerals. -/
theorem spans_withNumerals (slot : Nat) {pieces : List (List Char)} (hne : pieces ≠ []) :
    (withNumerals slot pieces).Spans fun cs captures => ∃ ns, Woven pieces ns cs ∧
      (∀ n ∈ ns, Numeral ['+', '-'] n) ∧ captures = numberCaptures slot ns := by
  induction pieces generalizing slot with
  | nil => exact absurd rfl hne
  | cons piece pieces ih =>
    cases pieces with
    | nil =>
      refine (spans_literal piece).congr fun cs captures => ?_
      simp only [woven_singleton]
      constructor
      · rintro ⟨rfl, rfl⟩
        exact ⟨[], ⟨rfl, rfl⟩, by simp, rfl⟩
      · rintro ⟨_, ⟨rfl, rfl⟩, -, rfl⟩
        exact ⟨rfl, rfl⟩
    | cons mid pieces =>
      refine ((spans_literal piece).seq ((spans_numeral.group slot).seq
        (ih (slot + 1) (by simp)))).congr fun cs captures => ?_
      simp only [woven_cons_cons]
      constructor
      · rintro ⟨_, _, _, _, ⟨rfl, rfl⟩, ⟨n, _, text, _, ⟨_, ⟨hn, rfl⟩, rfl⟩, ⟨ns, hns, hall, rfl⟩,
          rfl, rfl⟩, rfl, rfl⟩
        exact ⟨n :: ns, ⟨n, ns, text, rfl, rfl, hns⟩, List.forall_mem_cons.2 ⟨hn, hall⟩,
          by simp [numberCaptures]⟩
      · rintro ⟨_, ⟨n, ns, text, rfl, rfl, hns⟩, hall, rfl⟩
        rw [List.forall_mem_cons] at hall
        exact ⟨piece, [], n ++ text, numberCaptures slot (n :: ns), ⟨rfl, rfl⟩,
          ⟨n, [(slot, n)], text, _, ⟨[], ⟨hall.1, rfl⟩, rfl⟩, ⟨ns, hns, hall.2, rfl⟩, rfl, rfl⟩,
          rfl, by simp⟩

/-! ### Separated literals -/

/-- A filler of numeric characters is determined by what comes after it, up to a character that is
not numeric. -/
theorem filler_unique {a b mid rest rest' : List Char} (ha : ∀ c ∈ a, isNumeric c = true)
    (hb : ∀ c ∈ b, isNumeric c = true) (hmid : ∃ c ∈ mid, isNumeric c = false)
    (h : a ++ (mid ++ rest) = b ++ (mid ++ rest')) : a = b := by
  have hstop (rest : List Char) :
      (mid ++ rest).takeWhile isNumeric = mid.takeWhile isNumeric := by
    obtain ⟨c, hc, hfalse⟩ := hmid
    rw [List.takeWhile_append, if_neg]
    intro hlength
    have hall := List.takeWhile_eq_self_iff.1
      ((List.takeWhile_prefix isNumeric).eq_of_length hlength)
    exact absurd (hall c hc) (by simp [hfalse])
  have htake := congrArg (List.takeWhile isNumeric) h
  rw [List.takeWhile_append_of_pos ha, List.takeWhile_append_of_pos hb, hstop, hstop] at htake
  exact List.append_cancel_right htake

/-- Literals that each have a character which is not numeric, up to the first and the last, leave
one way to read the fillers of a text. -/
theorem Woven.unique {pieces ns ns' : List (List Char)} {text : List Char}
    (hsep : ∀ piece ∈ pieces.tail.dropLast, ∃ c ∈ piece, isNumeric c = false)
    (h : Woven pieces ns text) (h' : Woven pieces ns' text)
    (hns : ∀ n ∈ ns, ∀ c ∈ n, isNumeric c = true) (hns' : ∀ n ∈ ns', ∀ c ∈ n, isNumeric c = true) :
    ns = ns' := by
  induction h generalizing ns' with
  | last piece => exact (woven_singleton.1 h').1.symm
  | @next piece n pieces ns text h ih =>
    obtain ⟨mid, pieces, rfl⟩ := List.exists_cons_of_ne_nil
      (show pieces ≠ [] by rintro rfl; exact not_woven_nil h)
    obtain ⟨n', ns', text', rfl, htext, hmore⟩ := woven_cons_cons.1 h'
    rw [List.forall_mem_cons] at hns hns'
    have hfillers := List.append_cancel_left htext
    cases pieces with
    | nil =>
      obtain ⟨rfl, rfl⟩ := woven_singleton.1 h
      obtain ⟨rfl, rfl⟩ := woven_singleton.1 hmore
      rw [List.append_cancel_right hfillers]
    | cons next pieces =>
      rw [List.tail_cons, List.dropLast_cons_cons, List.forall_mem_cons] at hsep
      have hn : n = n' := by
        obtain ⟨_, _, _, -, rfl, -⟩ := woven_cons_cons.1 h
        obtain ⟨_, _, _, -, rfl, -⟩ := woven_cons_cons.1 hmore
        exact filler_unique hns.1 hns'.1 hsep.1 hfillers
      subst hn
      rw [ih hsep.2 (List.append_cancel_left hfillers ▸ hmore) hns.2 hns'.2]

end Loadout
