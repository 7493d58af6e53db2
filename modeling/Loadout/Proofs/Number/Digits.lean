import Loadout.Document.Reader

/-!
# Reading back the digits of a whole number

The digits of a whole number in base ten and in base sixteen are read back as the number.
The induction is on the number with its last digit taken off, as the digits are made.

## Main results

* `Document.ofDigits_toDigits`, `Hexadecimal.read?_toDigits`: reading gives the number back
* `head?_toDigits_ne_zero`: a positive number is written without a zero in front
-/

namespace Loadout

/-- A positive number is written without a zero in front. -/
theorem head?_toDigits_ne_zero {b n : Nat} (hb : 1 < b) (hn : 0 < n) :
    (Nat.toDigits b n).head? ≠ some '0' := by
  induction n using Nat.base_induction b hb with
  | single d hd =>
    rw [Nat.toDigits_of_lt_base hd, List.head?_cons, ne_eq, Option.some_inj,
      Nat.digitChar_eq_zero]
    exact Nat.ne_of_gt hn
  | digit m d hd hm ih =>
    rw [← Nat.toDigits_append_toDigits hb hm hd]
    cases hds : Nat.toDigits b m with
    | nil => exact absurd hds Nat.toDigits_ne_nil
    | cons c ds => simpa [hds] using ih hm

theorem exists_of_mem_toDigits {b n : Nat} (hb : 1 < b) {c : Char} (hc : c ∈ Nat.toDigits b n) :
    ∃ d < b, c = Nat.digitChar d := by
  induction n using Nat.base_induction b hb with
  | single d hd =>
    rw [Nat.toDigits_of_lt_base hd, List.mem_singleton] at hc
    exact ⟨d, hd, hc⟩
  | digit m d hd hm ih =>
    rw [← Nat.toDigits_append_toDigits hb hm hd, List.mem_append] at hc
    rcases hc with hc | hc
    · exact ih hc
    · rw [Nat.toDigits_of_lt_base hd, List.mem_singleton] at hc
      exact ⟨d, hd, hc⟩

/-- Decimal digits are read back as the number. -/
theorem Document.ofDigits_toDigits (n : Nat) : Document.ofDigits (Nat.toDigits 10 n) = n :=
  Nat.ofDigitChars_ten_toDigits

namespace Hexadecimal

theorem digit?_digitChar {d : Nat} (hd : d < 16) : digit? (Nat.digitChar d) = some d := by
  revert d
  decide

/-- Hexadecimal digits are read back as the number. -/
theorem read?_toDigits (n : Nat) : read? (Nat.toDigits 16 n) = some n := by
  have hfold : (Nat.toDigits 16 n).foldlM (fun n c => (digit? c).map (16 * n + ·)) 0 = some n := by
    induction n using Nat.base_induction 16 (by decide) with
    | single d hd => simp [Nat.toDigits_of_lt_base hd, digit?_digitChar hd]
    | digit m d hd hm ih =>
      rw [← Nat.toDigits_append_toDigits (by decide) hm hd, List.foldlM_append, ih]
      simp [Nat.toDigits_of_lt_base hd, digit?_digitChar hd]
  rw [read?, if_neg (by simp [Nat.toDigits_ne_nil]), hfold]

end Hexadecimal

end Loadout
