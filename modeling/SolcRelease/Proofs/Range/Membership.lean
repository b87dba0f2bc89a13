import SolcRelease.Proofs.Version.Order
import SolcRelease.Range.Basic

/-! Which versions a range holds, by the order of versions, and which ranges hold none. -/

namespace SolcRelease

namespace VersionRange

variable {version bound lower upper : Version}

/-- A row of numbers does not precede another if its version is not less. -/
theorem not_precedes_parts_iff {a b : Version} : (!precedes a.parts b.parts) = true ↔ b ≤ a := by
  rw [Bool.not_eq_true', ← Bool.not_eq_true, Version.precedes_parts_iff, not_lt]

/-- An exact range holds its version. -/
theorem contains_exact_iff : (exact bound).contains version = true ↔ version = bound := by
  rw [contains, beq_iff_eq, Version.parts_inj]

/-- A range between two bounds holds both and what lies between them. -/
theorem contains_between_iff :
    (between lower upper).contains version = true ↔ lower ≤ version ∧ version ≤ upper := by
  rw [contains, Bool.and_eq_true, not_precedes_parts_iff, not_precedes_parts_iff]

/-- A range below a bound holds what precedes the bound. -/
theorem contains_below_iff : (below upper).contains version = true ↔ version < upper := by
  rw [contains, Version.precedes_parts_iff]

/-- A range has no gaps: it holds whatever lies between two versions that it holds. -/
theorem contains_of_le_of_le {range : VersionRange} {a b c : Version} (low : a ≤ b) (high : b ≤ c)
    (first : range.contains a = true) (last : range.contains c = true) :
    range.contains b = true := by
  -- Only the bound on either side matters, and the two versions keep to it.
  cases range with
  | exact bound =>
    rw [contains_exact_iff] at *
    subst first
    exact le_antisymm (last ▸ high) low
  | between lower upper =>
    rw [contains_between_iff] at *
    exact ⟨le_trans first.1 low, le_trans high last.2⟩
  | below upper =>
    rw [contains_below_iff] at *
    exact lt_of_le_of_lt high last

/-- Between two bounds there is nothing just if they are out of order. -/
theorem between_isEmpty_iff :
    (∀ version, (between lower upper).contains version = false) ↔ upper < lower := by
  simp only [← Bool.not_eq_true, contains_between_iff]
  constructor
  · intro none
    -- In order, the bounds would hold the lower one.
    exact not_le.mp fun inOrder => none lower ⟨le_refl lower, inOrder⟩
  · intro inverted version ⟨above, beneath⟩
    exact not_lt.mpr (le_trans above beneath) inverted

/-- Below a bound there is nothing just if the bound is the least version of all. -/
theorem below_isEmpty_iff :
    (∀ version, (below upper).contains version = false) ↔ upper = ⟨0, 0, 0⟩ := by
  simp only [← Bool.not_eq_true, contains_below_iff, Version.lt_iff]
  constructor
  · intro none
    -- The least version would be below any other bound.
    have least := none ⟨0, 0, 0⟩
    simp only at least
    rw [← Version.parts_inj]
    simp only [Version.parts, List.cons.injEq, and_true]
    omega
  · rintro rfl version
    simp only
    omega

end VersionRange

end SolcRelease
