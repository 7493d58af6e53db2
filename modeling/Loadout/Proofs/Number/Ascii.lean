import Mathlib.Tactic.IntervalCases
import Loadout.Proofs.Line.Numeral

/-!
# Decimal numerals in ASCII

Numerals are matched with digits of any script and read from ASCII digits only. A numeral all of
whose digits are ASCII is matched and read, and its value is the one that its digits spell.

## Main definitions

* `AsciiNumeral`: a decimal numeral in ASCII, with its text and its value

## Main results

* `AsciiNumeral.numeral_text`: it is a numeral
* `AsciiNumeral.readNumber?_text`: it is read as its value
-/

namespace Loadout

open Character

/-- A decimal numeral in ASCII: a sign or none, digits, and a point and more digits or none. -/
structure AsciiNumeral where
  sign : List Char
  whole : List Char
  /-- Without digits there is no point either. -/
  fraction : List Char
  sign_mem : sign ∈ [[], ['+'], ['-']]
  whole_ne_nil : whole ≠ []
  digits : ∀ c ∈ whole ++ fraction, isAsciiDigit c = true

namespace AsciiNumeral

/-- The digits of a numeral with its point. -/
def magnitude (n : AsciiNumeral) : List Char :=
  n.whole ++ if n.fraction = [] then [] else '.' :: n.fraction

/-- A numeral as it is written. -/
def text (n : AsciiNumeral) : List Char :=
  n.sign ++ n.magnitude

/-- The number that a numeral stands for. -/
def value {ν : Type} [Scalar ν] (n : AsciiNumeral) : ν :=
  (Decimal.ofParts (n.sign == ['-']) n.whole n.fraction).value

/-- The characters that a numeral can begin with. -/
def firsts : List Char :=
  "+-0123456789".toList

theorem mem_firsts_of_isAsciiDigit {c : Char} (h : isAsciiDigit c = true) : c ∈ firsts := by
  simp only [isAsciiDigit, Bool.and_eq_true, decide_eq_true_eq] at h
  obtain ⟨hlow, hhigh⟩ := h
  rw [← Char.ofNat_toNat c]
  interval_cases c.toNat <;> decide

variable (n : AsciiNumeral)

theorem exists_magnitude_eq_cons :
    ∃ c rest, n.magnitude = c :: rest ∧ isAsciiDigit c = true := by
  obtain ⟨c, rest, hwhole⟩ := List.exists_cons_of_ne_nil n.whole_ne_nil
  refine ⟨c, _, by rw [magnitude, hwhole]; rfl, n.digits c ?_⟩
  simp [hwhole]

theorem exists_text_eq_cons : ∃ c rest, n.text = c :: rest ∧ c ∈ firsts := by
  obtain ⟨c, rest, hmagnitude, hc⟩ := n.exists_magnitude_eq_cons
  have hsign := n.sign_mem
  simp only [List.mem_cons, List.not_mem_nil, or_false] at hsign
  rw [text, hmagnitude]
  rcases hsign with hsign | hsign | hsign <;> rw [hsign]
  · exact ⟨c, rest, rfl, mem_firsts_of_isAsciiDigit hc⟩
  · exact ⟨'+', c :: rest, rfl, by decide⟩
  · exact ⟨'-', c :: rest, rfl, by decide⟩

/-- A numeral in ASCII is a numeral. -/
theorem numeral_text : Numeral ['+', '-'] n.text := by
  have hdigits {cs : List Char} (hne : cs ≠ []) (hcs : ∀ c ∈ cs, c ∈ n.whole ++ n.fraction) :
      Digits cs :=
    ⟨hne, fun c hc => isDecimalDigit_of_isAsciiDigit (n.digits c (hcs c hc))⟩
  have hwhole : Digits n.whole := hdigits n.whole_ne_nil fun c hc => List.mem_append_left _ hc
  have hmagnitude : Magnitude n.magnitude := by
    rw [magnitude]
    split
    case isTrue => rw [List.append_nil]; exact .whole hwhole
    case isFalse hne =>
      exact .fraction hwhole (hdigits hne fun c hc => List.mem_append_right _ hc)
  have hsign := n.sign_mem
  simp only [List.mem_cons, List.not_mem_nil, or_false] at hsign
  rw [text]
  rcases hsign with hsign | hsign | hsign <;> rw [hsign]
  · exact .unsigned hmagnitude
  · exact .signed (by simp) hmagnitude
  · exact .signed (by simp) hmagnitude

theorem readUnsigned?_magnitude (negative : Bool) :
    Decimal.readUnsigned? negative n.magnitude =
      some (.ofParts negative n.whole n.fraction) := by
  have hwhole : ∀ c ∈ n.whole, isAsciiDigit c = true :=
    fun c hc => n.digits c (List.mem_append_left _ hc)
  have hfraction : ∀ c ∈ n.fraction, isAsciiDigit c = true :=
    fun c hc => n.digits c (List.mem_append_right _ hc)
  have hne : n.whole.isEmpty = false := by simp [n.whole_ne_nil]
  rw [Decimal.readUnsigned?, magnitude, List.takeWhile_append_of_pos hwhole,
    List.dropWhile_append_of_pos hwhole]
  by_cases hnone : n.fraction = []
  · simp [hnone, hne]
  · have hpoint : isAsciiDigit '.' = false := by decide
    have hall : n.fraction.all isAsciiDigit = true := List.all_eq_true.2 hfraction
    rw [if_neg hnone, List.takeWhile_cons_of_neg (by simp [hpoint]),
      List.dropWhile_cons_of_neg (by simp [hpoint]), List.append_nil]
    simp [hne, hall]

/-- A numeral in ASCII is read as the number that it stands for. -/
theorem readNumber?_text {ν : Type} [Scalar ν] : readNumber? n.text = some (n.value : ν) := by
  obtain ⟨c, rest, hmagnitude, hc⟩ := n.exists_magnitude_eq_cons
  have hplus : (c == '+') = false := by
    rw [beq_eq_false_iff_ne]
    rintro rfl
    exact absurd hc (by decide)
  have hminus : c ≠ '-' := by
    rintro rfl
    exact absurd hc (by decide)
  have hunsigned : Decimal.read? n.magnitude = some (.ofParts false n.whole n.fraction) := by
    rw [Decimal.read?, hmagnitude, List.dropWhile_cons_of_neg (by simp [hplus])]
    split
    case h_1 heq => exact absurd (List.cons.inj heq).1 hminus
    case h_2 => rw [← hmagnitude, readUnsigned?_magnitude]
  have hpositive : Decimal.read? ('+' :: n.magnitude) = Decimal.read? n.magnitude := by
    rw [Decimal.read?, Decimal.read?, List.dropWhile_cons_of_pos (by decide)]
  have hsign := n.sign_mem
  simp only [List.mem_cons, List.not_mem_nil, or_false] at hsign
  rw [readNumber?, value, text, Option.map_eq_some_iff]
  refine ⟨_, ?_, rfl⟩
  rcases hsign with hsign | hsign | hsign <;> rw [hsign]
  · exact hunsigned
  · exact hpositive.trans hunsigned
  · rw [List.singleton_append, Decimal.read?, List.dropWhile_cons_of_neg (by decide)]
    exact readUnsigned?_magnitude n true

end AsciiNumeral

end Loadout
