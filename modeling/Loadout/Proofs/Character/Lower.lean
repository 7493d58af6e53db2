import Loadout.Character.Blank
import Loadout.Character.Case

/-!
# What lower case gives is lower case

Lower case takes every character to characters that it leaves alone, and it neither makes nor
changes a blank or a period. Both are read off the runs of the mapping, whose characters are
never looked at one by one: two runs that shift by some distance keep out of each other's way
when their ends are in order, or when both take every other character and are one apart.

## Main definitions

* `CaseRun.clear`: a run changes and gives nothing of a range
* `CaseRun.apart`: a run gives nothing that another run changes

## Main results

* `lower_of_mem_lower`: lower case leaves alone what it has given
* `lower_of_mark`, `eq_of_mark_mem_lower`: blanks and periods stay and come from nowhere else
-/

namespace Loadout.Character

namespace CaseRun

/-- The least code point that a run gives. -/
def low (run : CaseRun) : Nat :=
  (run.first + run.shift).toNat

/-- The greatest code point that a run gives. -/
def high (run : CaseRun) : Nat :=
  (run.last + run.shift).toNat

/-- Whether all that a run gives are characters, none of them a capital letter of ASCII or the
dotted capital I. -/
def legal (run : CaseRun) : Bool :=
  90 < run.low && (run.high < 0xD800 || (0xE000 ≤ run.low && run.high < 0x110000)) &&
    (run.high < 0x130 || 0x130 < run.low)

/-- Whether a run neither changes nor gives a code point of a range. -/
def clear (run : CaseRun) (range : Nat × Nat) : Bool :=
  (run.high < range.1 || range.2 < run.low) && (run.last < range.1 || range.2 < run.first)

/-- Whether a run gives no code point that another run changes. -/
def apart (run other : CaseRun) : Bool :=
  run.high < other.first || other.last < run.low ||
    ((run.step == 2 || run.first == run.last) && other.step == 2 &&
      (run.low + other.first) % 2 == 1 && 0 ≤ run.first + run.shift)

theorem image?_eq_some_iff {run : CaseRun} {n m : Nat} :
    run.image? n = some m ↔ run.first ≤ n ∧ n ≤ run.last ∧ (n - run.first) % run.step = 0 ∧
      (n + run.shift).toNat = m := by
  simp [image?, and_assoc]

theorem low_le {run : CaseRun} {n m : Nat} (h : run.image? n = some m) : run.low ≤ m := by
  obtain ⟨hfirst, -, -, rfl⟩ := image?_eq_some_iff.1 h
  simp only [low]
  omega

theorem le_high {run : CaseRun} {n m : Nat} (h : run.image? n = some m) : m ≤ run.high := by
  obtain ⟨-, hlast, -, rfl⟩ := image?_eq_some_iff.1 h
  simp only [high]
  omega

theorem not_mem_of_clear {run : CaseRun} {range : Nat × Nat}
    (hclear : run.clear range = true) {n m : Nat} (h : run.image? n = some m) :
    ¬ (range.1 ≤ m ∧ m ≤ range.2) ∧ ¬ (range.1 ≤ n ∧ n ≤ range.2) := by
  have hlow := low_le h
  have hhigh := le_high h
  obtain ⟨hfirst, hlast, -, -⟩ := image?_eq_some_iff.1 h
  simp only [clear, Bool.and_eq_true, Bool.or_eq_true, decide_eq_true_eq] at hclear
  omega

/-- What a run gives is not changed by a run that it is apart from. -/
theorem image?_eq_none_of_apart {run other : CaseRun} (hapart : run.apart other = true) {n m : Nat}
    (h : run.image? n = some m) : other.image? m = none := by
  have hlow := low_le h
  have hhigh := le_high h
  obtain ⟨hfirst, hlast, hstep, himage⟩ := image?_eq_some_iff.1 h
  rw [Option.eq_none_iff_forall_ne_some]
  intro l hl
  obtain ⟨hfirst', hlast', hstep', -⟩ := image?_eq_some_iff.1 hl
  simp only [apart, Bool.or_eq_true, Bool.and_eq_true, decide_eq_true_eq, beq_iff_eq] at hapart
  rcases hapart with (hbelow | habove) | ⟨⟨⟨hpair, htwo⟩, hodd⟩, hshift⟩
  · omega
  · omega
  · rw [htwo] at hstep'
    simp only [low] at hodd
    rcases hpair with hpair | hone
    · rw [hpair] at hstep
      omega
    · omega

end CaseRun

/-- The code points of blanks and of the period. -/
def marks : Ranges :=
  (0x2E, 0x2E) :: blanks

theorem marks_contains (c : Char) : marks.contains c = (isBlank c || c == '.') := by
  have hperiod : (0x2E ≤ c.toNat && c.toNat ≤ 0x2E) = (c == '.') := by
    rw [Bool.eq_iff_iff, Bool.and_eq_true, decide_eq_true_eq, decide_eq_true_eq, beq_iff_eq,
      ← Char.toNat_inj]
    change _ ↔ c.toNat = 0x2E
    omega
  rw [marks, Ranges.contains, List.any_cons, hperiod, Bool.or_comm, isBlank, Ranges.contains]

/-- The runs of lower case give characters, leave marks alone, and are apart from one another. -/
theorem lowerRuns_checked : (lowerRuns.all fun run =>
    run.legal && marks.all run.clear && lowerRuns.all run.apart) = true := by
  decide +kernel

private theorem legal_of_mem {run : CaseRun} (h : run ∈ lowerRuns) : run.legal = true := by
  have hrun := List.all_eq_true.1 lowerRuns_checked run h
  rw [Bool.and_eq_true, Bool.and_eq_true] at hrun
  exact hrun.1.1

private theorem clear_of_mem {run : CaseRun} (h : run ∈ lowerRuns) {range : Nat × Nat}
    (hrange : range ∈ marks) : run.clear range = true := by
  have hrun := List.all_eq_true.1 lowerRuns_checked run h
  rw [Bool.and_eq_true, Bool.and_eq_true] at hrun
  exact List.all_eq_true.1 hrun.1.2 range hrange

private theorem apart_of_mem {run other : CaseRun} (h : run ∈ lowerRuns)
    (hother : other ∈ lowerRuns) : run.apart other = true := by
  have hrun := List.all_eq_true.1 lowerRuns_checked run h
  rw [Bool.and_eq_true] at hrun
  exact List.all_eq_true.1 hrun.2 other hother

/-- The ways in which lower case gives a character: a capital letter of ASCII, a character that is
left alone, a part of the dotted capital I, or the image of a character under a run. -/
inductive Lowers (c d : Char) : Prop
  | ascii (hlow : 65 ≤ c.toNat) (hhigh : c.toNat ≤ 90) (hd : d.toNat = c.toNat + 32)
  | same (hd : d = c) (h : lower c = [c])
  | dotted (hc : c.toNat = 0x130) (hd : d = 'i' ∨ d.toNat = 0x307)
  | image (run : CaseRun) (hrun : run ∈ lowerRuns) (hd : run.image? c.toNat = some d.toNat)

theorem toNat_ofNat {n : Nat} (h : n < 0xD800 ∨ (0xE000 ≤ n ∧ n < 0x110000)) :
    (Char.ofNat n).toNat = n := by
  have hvalid : n.isValidChar := h.imp_right fun h => ⟨by omega, h.2⟩
  rw [Char.ofNat, dif_pos hvalid]
  rfl

theorem lowers_of_mem_lower {c d : Char} (h : d ∈ lower c) : Lowers c d := by
  have halone (hc : lower c = [c]) : Lowers c d :=
    .same (by rwa [hc, List.mem_singleton] at h) hc
  unfold lower at h
  split at h
  case isTrue hascii =>
    split at h
    case isTrue hletter =>
      rw [Bool.and_eq_true, decide_eq_true_eq, decide_eq_true_eq] at hletter
      rw [List.mem_singleton.1 h]
      exact .ascii hletter.1 hletter.2 (toNat_ofNat (.inl (by omega)))
    case isFalse hletter => exact halone (by rw [lower, if_pos hascii, if_neg hletter])
  case isFalse hascii =>
    split at h
    case isTrue hdotted =>
      refine .dotted hdotted ?_
      rcases List.mem_cons.1 h with rfl | h
      · exact .inl rfl
      · rw [List.mem_singleton.1 h]
        exact .inr rfl
    case isFalse hdotted =>
      cases hfound : lowerRuns.findSome? (·.image? c.toNat) with
      | none => exact halone (by rw [lower, if_neg hascii, if_neg hdotted, hfound]; rfl)
      | some m =>
        obtain ⟨run, hrun, himage⟩ := List.exists_of_findSome?_eq_some hfound
        have hlegal := legal_of_mem hrun
        have hlow := CaseRun.low_le himage
        have hhigh := CaseRun.le_high himage
        simp only [CaseRun.legal, Bool.and_eq_true, Bool.or_eq_true, decide_eq_true_eq] at hlegal
        have hd : d.toNat = m := by
          rw [hfound] at h
          rw [List.mem_singleton.1 h]
          exact toNat_ofNat (by omega)
        exact .image run hrun (by rw [himage, hd])

/-- Lower case leaves alone what it has given. -/
theorem lower_of_mem_lower {c d : Char} (h : d ∈ lower c) : lower d = [d] := by
  have hsmall (hlow : 90 < d.toNat) (hhigh : d.toNat < 128) : lower d = [d] := by
    rw [lower, if_pos hhigh, if_neg (by simp; omega)]
  cases lowers_of_mem_lower h with
  | ascii hlow hhigh hd => exact hsmall (by omega) (by omega)
  | same hd hc => rw [hd, hc]
  | dotted hc hd =>
    rcases hd with rfl | hd
    · decide
    · have hmark : d = Char.ofNat 0x307 := Char.toNat_inj.1 hd
      rw [hmark]
      decide +kernel
  | image run hrun hd =>
    have hlegal := legal_of_mem hrun
    have hlow := CaseRun.low_le hd
    have hhigh := CaseRun.le_high hd
    simp only [CaseRun.legal, Bool.and_eq_true, Bool.or_eq_true, decide_eq_true_eq] at hlegal
    by_cases hascii : d.toNat < 128
    · exact hsmall (by omega) hascii
    · have hnone : lowerRuns.findSome? (·.image? d.toNat) = none :=
        List.findSome?_eq_none_iff.2 fun other hother =>
          CaseRun.image?_eq_none_of_apart (apart_of_mem hrun hother) hd
      rw [lower, if_neg hascii, if_neg (by omega), hnone]
      rfl

/-- Marks come from themselves alone. -/
theorem eq_of_mark_mem_lower {c d : Char} (h : d ∈ lower c)
    (hmark : marks.contains c = true ∨ marks.contains d = true) : d = c := by
  have hmarks (e : Char) (he : marks.contains e = true) :
      ∃ range ∈ marks, range.1 ≤ e.toNat ∧ e.toNat ≤ range.2 :=
    Ranges.contains_iff.1 he
  have hletters : ∀ range ∈ marks, range.2 < 65 ∨ 122 < range.1 := by decide
  have hdots : ∀ range ∈ marks, (range.2 < 0x130 ∨ 0x130 < range.1) ∧
      (range.2 < 0x307 ∨ 0x307 < range.1) ∧ (range.2 < 105 ∨ 105 < range.1) := by decide
  cases lowers_of_mem_lower h with
  | ascii hlow hhigh hd =>
    rcases hmark with hmark | hmark <;>
    · obtain ⟨range, hrange, hrange'⟩ := hmarks _ hmark
      have := hletters range hrange
      omega
  | same hd => exact hd
  | dotted hc hd =>
    have hi : 'i'.toNat = 105 := rfl
    rcases hmark with hmark | hmark <;>
    · obtain ⟨range, hrange, hrange'⟩ := hmarks _ hmark
      have := hdots range hrange
      rcases hd with rfl | hd <;> omega
  | image run hrun hd =>
    rcases hmark with hmark | hmark <;>
    · obtain ⟨range, hrange, hrange'⟩ := hmarks _ hmark
      have := CaseRun.not_mem_of_clear (clear_of_mem hrun hrange) hd
      omega

theorem lower_ne_nil (c : Char) : lower c ≠ [] := by
  unfold lower
  split
  · split <;> simp
  · split <;> simp

/-- Marks stay as they are. -/
theorem lower_of_mark {c : Char} (h : marks.contains c = true) : lower c = [c] := by
  obtain ⟨d, hd⟩ := List.exists_mem_of_ne_nil _ (lower_ne_nil c)
  have hsame := eq_of_mark_mem_lower hd (.inl h)
  subst hsame
  exact lower_of_mem_lower hd

end Loadout.Character
