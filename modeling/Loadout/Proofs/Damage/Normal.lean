import Mathlib.Data.Sign.Basic
import Loadout.Proofs.Damage.Cap

/-!
# Normal matrices

A matrix is normal when no row exceeds one in total, negative fractions included. Normalizing gives
a normal matrix and leaves a normal one alone, so doing it twice is doing it once, and conversion,
which normalizes before it begins, does not tell a matrix from its normal form. A row that is
scaled down keeps its proportions and signs, for its total is positive.

A matrix that is made of entries has at each pair the sum of the entries for the pair, and nothing
at a pair that cannot convert. So entries can be taken in any order, and those for other pairs left
out.

## Main definitions

* `ConversionMatrix.Normal`: no row exceeds one
* `ConversionMatrix.convertible`: the entries for pairs that can convert

## Main results

* `ConversionMatrix.total_normalize`: what a row comes to
* `ConversionMatrix.normalize_eq_self`: normal matrices stay as they are
* `ConversionMatrix.get_ofEntries`: a matrix that is made of entries
* `ConversionMatrix.normalize_projects`: normalizing is a projection
-/

namespace Loadout.ConversionMatrix

theorem ext_get {m m' : ConversionMatrix Rat}
    (h : ∀ source target, m.get source target = m'.get source target) : m = m' := by
  obtain ⟨rows⟩ := m
  obtain ⟨rows'⟩ := m'
  exact congrArg mk (ByType.ext_get fun source => ByType.ext_get (h source))

/-! ### Normalizing -/

/-- No row exceeds one. -/
def Normal (m : ConversionMatrix Rat) : Prop :=
  ∀ source, m.total source ≤ 1

variable {m : ConversionMatrix Rat} {source : DamageType}

theorem get_normalize_of_le (h : m.total source ≤ 1) (target : DamageType) :
    m.normalize.get source target = m.get source target := by
  rw [get_normalize, if_neg (not_lt.mpr h)]

theorem get_normalize_of_lt (h : 1 < m.total source) (target : DamageType) :
    m.normalize.get source target = m.get source target / m.total source := by
  rw [get_normalize, if_pos h]

/-- Normalizing cuts the total of a row at one. -/
theorem total_normalize (m : ConversionMatrix Rat) (source : DamageType) :
    m.normalize.total source = min 1 (m.total source) := by
  rw [total_eq m.normalize]
  rcases le_or_gt (m.total source) 1 with h | h
  · simp only [get_normalize_of_le h, ← total_eq, min_eq_right h]
  · have hpos : m.total source ≠ 0 := (zero_lt_one.trans h).ne'
    simp only [get_normalize_of_lt h, div_eq_mul_inv, List.sum_map_mul_right, ← total_eq,
      mul_inv_cancel₀ hpos, min_eq_left h.le]

theorem normal_normalize (m : ConversionMatrix Rat) : m.normalize.Normal :=
  fun source => (total_normalize m source).trans_le (min_le_left _ _)

/-- A normal matrix stays as it is. -/
theorem normalize_eq_self (h : m.Normal) : m.normalize = m :=
  ext_get fun source => get_normalize_of_le (h source)

theorem div_get_normalize (h : 1 < m.total source) (t u : DamageType) :
    m.normalize.get source t / m.normalize.get source u = m.get source t / m.get source u := by
  rw [get_normalize_of_lt h, get_normalize_of_lt h,
    div_div_div_cancel_right₀ (zero_lt_one.trans h).ne']

theorem sign_get_normalize (h : 1 < m.total source) (t : DamageType) :
    SignType.sign (m.normalize.get source t) = SignType.sign (m.get source t) := by
  rw [get_normalize_of_lt h, div_eq_mul_inv, sign_mul,
    sign_pos (inv_pos.mpr (zero_lt_one.trans h)), mul_one]

/-! ### Entries -/

/-- The entries for pairs that can convert. -/
def convertible (entries : List (DamageType × DamageType × Rat)) :
    List (DamageType × DamageType × Rat) :=
  entries.filter fun entry => entry.1.converts entry.2.1

/-- What entries are for a pair. -/
def entriesAt (source target : DamageType) (entries : List (DamageType × DamageType × Rat)) :
    List (DamageType × DamageType × Rat) :=
  entries.filter fun entry => entry.1 == source && entry.2.1 == target

theorem get_foldl_add (source target : DamageType)
    (entries : List (DamageType × DamageType × Rat)) (m : ConversionMatrix Rat) :
    (entries.foldl (fun m entry => m.add entry.1 entry.2.1 entry.2.2) m).get source target =
      m.get source target + ((entriesAt source target (convertible entries)).map (·.2.2)).sum := by
  induction entries generalizing m with
  | nil => exact (add_zero _).symm
  | cons entry entries ih =>
    rw [List.foldl_cons, ih, get_add, entriesAt, entriesAt, convertible, convertible,
      List.filter_filter, List.filter_filter]
    by_cases hpair : entry.1.converts entry.2.1 ∧ entry.1 = source ∧ entry.2.1 = target
    · obtain ⟨hconverts, rfl, rfl⟩ := hpair
      rw [if_pos ⟨hconverts, rfl, rfl⟩, List.filter_cons_of_pos (by simp [hconverts]),
        List.map_cons, List.sum_cons, add_assoc]
    · rw [if_neg hpair, List.filter_cons_of_neg fun h => hpair ?_]
      simpa [and_assoc, and_comm, and_left_comm] using h

/-- The fraction of a pair is the sum of its entries, and zero for a pair that cannot convert. -/
theorem get_ofEntries (source target : DamageType)
    (entries : List (DamageType × DamageType × Rat)) :
    (ofEntries entries).get source target =
      ((entriesAt source target (convertible entries)).map (·.2.2)).sum := by
  rw [ofEntries, get_foldl_add, get_empty, Scalar.zero_rat, zero_add]

/-- The entries for pairs that can convert make the matrix, in any order. -/
theorem ofEntries_congr {entries entries' : List (DamageType × DamageType × Rat)}
    (h : (convertible entries).Perm (convertible entries')) :
    ofEntries entries = ofEntries entries' :=
  ext_get fun source target => by
    rw [get_ofEntries, get_ofEntries]
    exact ((h.filter _).map _).sum_eq

/-- The matrix `m` of any entries. Normalizing leaves a row that does not exceed one unchanged, and
makes any other row total one with the same proportions and signs. Normalizing again changes
nothing more, and conversion gives the same with the normalized matrix as with `m`. Other entries
make `m` as well when those for pairs that can convert are the same in any order. -/
theorem normalize_projects (entries : List (DamageType × DamageType × Rat))
    (base : DamageVector Rat) (gains : ConversionMatrix Rat) :
    let m := ofEntries entries
    (∀ s, m.total s ≤ 1 → ∀ t, m.normalize.get s t = m.get s t) ∧
      (∀ s, 1 < m.total s → m.normalize.total s = 1 ∧
        (∀ t u, m.normalize.get s t / m.normalize.get s u = m.get s t / m.get s u) ∧
        ∀ t, SignType.sign (m.normalize.get s t) = SignType.sign (m.get s t)) ∧
      m.normalize.normalize = m.normalize ∧
      applyConversions base m.normalize gains = applyConversions base m gains ∧
      ∀ entries', (convertible entries').Perm (convertible entries) → ofEntries entries' = m := by
  intro m
  have htwice : m.normalize.normalize = m.normalize := normalize_eq_self (normal_normalize m)
  refine ⟨fun s h t => get_normalize_of_le h t, fun s h => ⟨?_, ?_, ?_⟩, htwice, ?_, ?_⟩
  · rw [total_normalize, min_eq_left h.le]
  · exact div_get_normalize h
  · exact sign_get_normalize h
  · rw [applyConversions, applyConversions, htwice]
  · exact fun entries' h => ofEntries_congr h

/-- Physical damage exceeds one with a negative fraction among the others and is scaled down, while
lightning stays as it is. A pair that cannot convert is left out, and the other entries come in
another order. -/
theorem normalize_projects_mixed :
    let entries : List (DamageType × DamageType × Rat) := [(.physical, .fire, 3 / 2),
      (.fire, .physical, 7), (.physical, .cold, -1 / 2), (.physical, .fire, 1),
      (.lightning, .cold, 1 / 2)]
    let entries' : List (DamageType × DamageType × Rat) := [(.lightning, .cold, 1 / 2),
      (.physical, .fire, 1), (.physical, .cold, -1 / 2), (.cold, .cold, 1 / 4),
      (.physical, .fire, 3 / 2)]
    let base : DamageVector Rat := ⟨100, 0, 0, 0, 0⟩
    let m := ofEntries entries
    1 < m.total .physical ∧ m.total .lightning ≤ 1 ∧
      (convertible entries').Perm (convertible entries) ∧
      m.normalize.total .physical = 1 ∧ m.normalize.get .physical .fire = 5 / 4 ∧
      m.normalize.get .lightning .cold = m.get .lightning .cold ∧
      applyConversions base m.normalize .empty = applyConversions base m .empty ∧
      ofEntries entries' = m := by
  intro entries entries' base m
  have hphysical : 1 < m.total .physical := by decide +kernel
  have hlightning : m.total .lightning ≤ 1 := by decide +kernel
  have hperm : (convertible entries').Perm (convertible entries) := by decide +kernel
  obtain ⟨hkept, hscaled, -, hconversion, hentries⟩ := normalize_projects entries base .empty
  exact ⟨hphysical, hlightning, hperm, (hscaled .physical hphysical).1, by decide +kernel,
    hkept .lightning hlightning .cold, hconversion, hentries entries' hperm⟩

end Loadout.ConversionMatrix
