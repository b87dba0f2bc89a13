import SolcRelease.Json.Shown
import SolcRelease.Proofs.Decimal.Natural
import SolcRelease.Proofs.Outcome

/-! Shown values are never empty texts, so only the empty string has an empty text by itself. -/

namespace SolcRelease

/-- A number with a point is no empty text, wherever its point is. -/
theorem PointedDigits.text_ne_nil (number : PointedDigits) : number.text ≠ [] := by
  unfold PointedDigits.text
  -- In every notation there is a sign that is always written: a point, or the mark of an exponent.
  dsimp only
  split
  · split
    · simp [Text.ofString, Text.ofChars]
    · split
      · simp [Text.ofString, Text.ofChars]
      · simp [Text.ofString, Text.ofChars]
  · simp [Text.ofString, Text.ofChars]

/-- A floating-point number is no empty text. -/
theorem Binary64.text_ne_nil (number : Binary64) : number.text ≠ [] := by
  cases number with
  | nan => decide
  | infinite negative => cases negative <;> decide
  | finite negative significand exponent =>
    unfold Binary64.text
    dsimp only
    split
    · simp [Text.ofString, Text.ofChars]
    · -- A sign in front adds to what is there.
      exact List.append_ne_nil_of_right_ne_nil _ (PointedDigits.text_ne_nil _)

namespace Json

variable {value : Json} {text : Text}

/-- A value is not shown as nothing. -/
theorem ne_nil_of_shown (found : value.shown = .ok text) : text ≠ [] := by
  cases value with
  | null =>
    cases found
    decide
  | bool truth =>
    cases found
    cases truth <;> decide
  | whole number =>
    simp only [shown, Decimal.writeSigned] at found
    split at found
    · cases found
      cases number with
      | ofNat n => exact Decimal.digits_ne_nil n
      | negSucc n => exact List.cons_ne_nil _ _
    · cases found
  | real number =>
    cases found
    exact Binary64.text_ne_nil number
  | string other =>
    cases found
    simp [Text.quoted]
  | array items =>
    simp only [shown, Outcome.bind_eq_ok_iff, Except.ok.injEq] at found
    obtain ⟨parts, -, rfl⟩ := found
    -- The brackets are there even if nothing is between them.
    simp [Text.ofString, Text.ofChars]
  | object members =>
    simp only [shown, Outcome.bind_eq_ok_iff, Except.ok.injEq] at found
    obtain ⟨parts, -, rfl⟩ := found
    simp [Text.ofString, Text.ofChars]

/-- The empty string is the only value whose text by itself is empty. -/
theorem plain_eq_nil_iff : value.plain = .ok [] ↔ value = .string [] := by
  constructor
  · intro found
    unfold plain at found
    split at found
    · rw [Except.ok.inj found]
    · exact absurd rfl (ne_nil_of_shown found)
  · rintro rfl
    rfl

end Json

end SolcRelease
