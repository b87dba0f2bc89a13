import SolcRelease.Text.Blank

/-! Rows of plain digits. -/

namespace SolcRelease

namespace CodePoint

/-- The digits of ASCII follow each other. -/
theorem bounds_of_isDigit {c : CodePoint} (digit : c.isDigit) :
    48 ≤ c.toNat ∧ c.toNat ≤ 57 := by
  -- A lone half is no character, and hence no digit.
  cases c with
  | char c =>
    simpa [isDigit, char?, toNat, Char.isDigit, UInt32.le_iff_toNat_le] using digit
  | half place => simp [isDigit, char?] at digit

/-- The large letters of ASCII follow each other, and so do the small ones. -/
theorem bounds_of_isAlpha {c : CodePoint} (letter : c.isAlpha) :
    65 ≤ c.toNat ∧ c.toNat ≤ 90 ∨ 97 ≤ c.toNat ∧ c.toNat ≤ 122 := by
  cases c with
  | char c =>
    -- A letter is large or small, and either kind has a first and a last one.
    rcases Bool.or_eq_true_iff.mp letter with large | small
    · have bounds : 'A'.val ≤ c.val ∧ c.val ≤ 'Z'.val := of_decide_eq_true large
      exact Or.inl ⟨UInt32.le_iff_toNat_le.mp bounds.1, UInt32.le_iff_toNat_le.mp bounds.2⟩
    · have bounds := Bool.and_eq_true_iff.mp small
      exact Or.inr ⟨UInt32.le_iff_toNat_le.mp (of_decide_eq_true bounds.1),
        UInt32.le_iff_toNat_le.mp (of_decide_eq_true bounds.2)⟩
  | half place => simp [isAlpha, char?] at letter

/-- No digit is blank. -/
theorem isBlank_eq_false_of_isDigit {c : CodePoint} (digit : c.isDigit) : isBlank c = false := by
  -- The digits of ASCII lie above its blanks and below the wide ones.
  have bounds := bounds_of_isDigit digit
  simp only [isBlank, isAsciiBlank, isSeparator, isWideBlank, Bool.or_eq_false_iff,
    Bool.and_eq_false_iff, decide_eq_false_iff_not, beq_eq_false_iff_ne]
  omega

end CodePoint

namespace Text

/-- A row is a text of plain digits, of which there may be none. -/
def IsRow (text : Text) : Prop :=
  ∀ c ∈ text, c.isDigit

/-- A row has as many characters as code points. -/
theorem length_chars_of_isRow {text : Text} (row : text.IsRow) :
    text.chars.length = text.length := by
  induction text with
  | nil => rfl
  | cons c rest ih =>
    have first := row c (by simp)
    have tail : IsRow rest := fun d member => row d (by simp [member])
    -- Only a lone half would not be among the characters.
    cases c with
    | char c => simpa [chars, CodePoint.char?] using ih tail
    | half place => simp [CodePoint.isDigit, CodePoint.char?] at first

/-- The characters of a row are digits. -/
theorem isDigit_of_mem_chars {text : Text} (row : text.IsRow) {c : Char}
    (member : c ∈ text.chars) : c.isDigit := by
  obtain ⟨code, inside, named⟩ := List.mem_filterMap.mp member
  simpa [CodePoint.isDigit, named] using row code inside

end Text

end SolcRelease
