import Loadout.Character.Digit
import Loadout.Proofs.Character.Lower

/-!
# Upper case makes no braces

The only brace that upper case gives is the one that it is given. The runs of the mapping keep
clear of the braces, and no brace is among the characters of a sequence; a number that is no code
point stands for the null character, which is no brace either.

## Main definitions

* `isBrace`: the two braces

## Main results

* `eq_of_brace_mem_upper`: braces come from themselves alone
* `not_isBrace_of_isAlphanumeric`: a brace is neither a letter nor a number character
-/

namespace Loadout.Character

/-- The code points of the braces. -/
def braces : Ranges :=
  [(0x7B, 0x7B), (0x7D, 0x7D)]

/-- Whether a character is a brace. -/
def isBrace (c : Char) : Bool :=
  braces.contains c

theorem isBrace_iff {c : Char} : isBrace c = true ↔ c.toNat = 0x7B ∨ c.toNat = 0x7D := by
  rw [isBrace, Ranges.contains_iff]
  simp only [braces, List.mem_cons, List.not_mem_nil, or_false, exists_eq_or_imp, exists_eq_left]
  omega

/-- A brace is neither a letter nor a number character. -/
theorem not_isBrace_of_isAlphanumeric {c : Char} (h : isAlphanumeric c = true) :
    isBrace c = false := by
  rw [Bool.eq_false_iff]
  intro hbrace
  rcases isBrace_iff.1 hbrace with hc | hc
  · rw [Char.toNat_inj.1 (show c.toNat = '\x7b'.toNat from hc)] at h
    revert h
    decide +kernel
  · rw [Char.toNat_inj.1 (show c.toNat = '\x7d'.toNat from hc)] at h
    revert h
    decide +kernel

theorem clear_of_mem_upperRuns :
    ∀ run ∈ upperRuns, ∀ range ∈ braces, run.clear range = true := by
  decide +kernel

theorem not_mem_of_mem_upperSequences :
    ∀ entry ∈ upperSequences, 0x7B ∉ entry.2 ∧ 0x7D ∉ entry.2 := by
  decide +kernel

theorem of_isBrace_ofNat {n : Nat} (h : isBrace (Char.ofNat n) = true) : n = 0x7B ∨ n = 0x7D := by
  have hn : (Char.ofNat n).toNat = n ∨ (Char.ofNat n).toNat = 0 := by
    by_cases hvalid : n.isValidChar
    · rw [Char.ofNat, dif_pos hvalid]
      exact .inl rfl
    · rw [Char.ofNat, dif_neg hvalid]
      exact .inr rfl
  have hbrace := isBrace_iff.1 h
  omega

/-- Braces come from themselves alone. -/
theorem eq_of_brace_mem_upper {c d : Char} (h : d ∈ upper c) (hbrace : isBrace d = true) :
    d = c := by
  unfold upper at h
  split at h
  case isTrue =>
    split at h
    case isTrue hletter =>
      rw [Bool.and_eq_true, decide_eq_true_eq, decide_eq_true_eq] at hletter
      rw [List.mem_singleton.1 h] at hbrace
      have := of_isBrace_ofNat hbrace
      omega
    case isFalse => exact List.mem_singleton.1 h
  case isFalse =>
    split at h
    case h_1 sequence hsequence =>
      obtain ⟨n, hn, rfl⟩ := List.mem_map.1 h
      obtain ⟨before, after, happend, -⟩ := List.lookup_eq_some_iff.1 hsequence
      have hentry : (c.toNat, sequence) ∈ upperSequences := by
        rw [happend]
        exact List.mem_append_right _ List.mem_cons_self
      have hclear := not_mem_of_mem_upperSequences _ hentry
      rcases of_isBrace_ofNat hbrace with rfl | rfl
      · exact absurd hn hclear.1
      · exact absurd hn hclear.2
    case h_2 =>
      rw [List.mem_singleton] at h
      cases hfound : upperRuns.findSome? (·.image? c.toNat) with
      | none => rw [h, hfound]; rfl
      | some m =>
        obtain ⟨run, hrun, himage⟩ := List.exists_of_findSome?_eq_some hfound
        rw [h, hfound] at hbrace
        obtain ⟨range, hrange, hm⟩ : ∃ range ∈ braces, range.1 ≤ m ∧ m ≤ range.2 := by
          rcases of_isBrace_ofNat hbrace with rfl | rfl <;> decide
        have hclear := clear_of_mem_upperRuns run hrun range hrange
        exact absurd hm (CaseRun.not_mem_of_clear hclear himage).1

end Loadout.Character
