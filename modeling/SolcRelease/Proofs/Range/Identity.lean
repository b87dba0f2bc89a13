import SolcRelease.Proofs.Range.Comparator
import SolcRelease.Range.Offered

/-! The text of a range tells which range it is: its form, and the bounds of that form. -/

namespace SolcRelease

namespace VersionRange

variable {one other : VersionRange} {text : Text}

/-- A range is known by its comparators. -/
theorem comparators_injective (same : one.comparators = other.comparators) : one = other := by
  -- Ranges of two forms differ in how many comparators they have, or in the first relation.
  cases one <;> cases other <;> simp_all [comparators]

/-- Ranges with one text are the same. -/
theorem eq_of_text (first : one.text = .ok text) (second : other.text = .ok text) :
    one = other := by
  -- The text is read back as the comparators of either range.
  have comparators := readAll?_text first
  rw [readAll?_text second] at comparators
  exact comparators_injective (Option.some.inj comparators).symm

/-- Offered as such, a range has its own text. -/
theorem text_range (written : one.text = .ok text) : (Offered.range one).text = .ok text := by
  rw [Offered.text, Offered.toRange, Outcome.ok_bind]
  exact Outcome.ofWriting_eq_ok_iff.mpr written

/--
Ranges that fit have texts, by themselves and as offered, and have the same text just if they are
of one form with the same bounds; then they hold the same versions.
-/
theorem text_identifies (fits : one.Fits) (otherFits : other.Fits) :
    ∃ text otherText, one.text = .ok text ∧ other.text = .ok otherText ∧
      (Offered.range one).text = .ok text ∧ (Offered.range other).text = .ok otherText ∧
      (text = otherText ↔ one = other) ∧
      (one.kind ≠ other.kind → text ≠ otherText) ∧
      (text = otherText → ∀ version, one.contains version = other.contains version) := by
  obtain ⟨text, written⟩ := exists_text fits
  obtain ⟨otherText, otherWritten⟩ := exists_text otherFits
  have same : text = otherText → one = other := by
    rintro rfl
    exact eq_of_text written otherWritten
  refine ⟨text, otherText, written, otherWritten, text_range written, text_range otherWritten,
    ⟨same, ?_⟩, ?_, ?_⟩
  · rintro rfl
    rw [written] at otherWritten
    exact Except.ok.inj otherWritten
  · exact fun differ equal => differ (congrArg kind (same equal))
  · intro equal version
    rw [same equal]

/-- The range below a version and the one of the version alone have different texts. -/
theorem text_identifies_sameBound :
    ∃ text otherText, (below ⟨0, 4, 7⟩).text = .ok text ∧ (exact ⟨0, 4, 7⟩).text = .ok otherText ∧
      text ≠ otherText := by
  have fits : (⟨0, 4, 7⟩ : Version).Fits := Version.fits_iff.mpr (by decide)
  have belowFits : (below ⟨0, 4, 7⟩).Fits := by simpa [Fits, comparators] using fits
  have exactFits : (exact ⟨0, 4, 7⟩).Fits := by simpa [Fits, comparators] using fits
  obtain ⟨text, otherText, written, otherWritten, -, -, -, differ, -⟩ :=
    text_identifies belowFits exactFits
  exact ⟨text, otherText, written, otherWritten, differ (by decide)⟩

end VersionRange

end SolcRelease
