import Mathlib.Algebra.Group.Nat.Defs
import Mathlib.Data.List.Induction
import SolcRelease.Decimal.Natural
import SolcRelease.Proofs.Text.Row

/-! Decimal texts of whole numbers read back as those numbers, within one and the same limit. -/

namespace SolcRelease

namespace Decimal

/-- The value of a digit is below ten. -/
private theorem digit_lt_ten {c : Char} (digit : c.isDigit) : c.toNat - '0'.toNat < 10 := by
  -- The ten digits begin with zero and follow each other.
  have bounds := CodePoint.bounds_of_isDigit (c := .char c) digit
  have number : CodePoint.toNat (.char c) = c.toNat := rfl
  have zero : '0'.toNat = 48 := rfl
  omega

/-- Reading more digits keeps below the next number at that place. -/
private theorem ofDigitChars_lt {digits : List Char} (row : ∀ c ∈ digits, c.isDigit)
    (start : Nat) : Nat.ofDigitChars 10 digits start < (start + 1) * 10 ^ digits.length := by
  -- Each digit moves the start one place up, so it stays quantified over.
  induction digits generalizing start with
  | nil => simp
  | cons c rest ih =>
    have small := digit_lt_ten (row c (by simp))
    have tail := ih (fun d member => row d (by simp [member])) (10 * start + (c.toNat - '0'.toNat))
    rw [Nat.ofDigitChars_cons]
    calc Nat.ofDigitChars 10 rest (10 * start + (c.toNat - '0'.toNat))
        < (10 * start + (c.toNat - '0'.toNat) + 1) * 10 ^ rest.length := tail
      _ ≤ (10 * (start + 1)) * 10 ^ rest.length := Nat.mul_le_mul_right _ (by omega)
      _ = (start + 1) * 10 ^ (c :: rest).length := by
        rw [List.length_cons, Nat.pow_succ]
        ac_rfl

/-- A row of digits stands for a number below the power of ten with as many zeros. -/
theorem value_lt {row : Text} (isRow : row.IsRow) : value row < 10 ^ row.length := by
  -- Reading starts from zero, and the digits of a row are all of its characters.
  have bound := ofDigitChars_lt (fun c => Text.isDigit_of_mem_chars isRow) 0
  rwa [Text.length_chars_of_isRow isRow, Nat.zero_add, Nat.one_mul] at bound

/-- A number is written with at least one digit. -/
theorem digits_ne_nil (n : Nat) : digits n ≠ [] := by
  simp [digits, Text.ofChars]

/-- A number is written with digits only. -/
theorem digits_isRow (n : Nat) : (digits n).IsRow := by
  intro c member
  obtain ⟨digit, inside, rfl⟩ := List.mem_map.mp member
  exact Nat.isDigit_of_mem_toDigits (by decide) (by decide) inside

/-- The digits of a number stand for that number. -/
theorem value_digits (n : Nat) : value (digits n) = n := by
  rw [value, digits, Text.chars_ofChars, Nat.ofDigitChars_ten_toDigits]

/-- So many digits are enough for the numbers below that power of ten. -/
theorem length_digits_le_iff {n count : Nat} (positive : 0 < count) :
    (digits n).length ≤ count ↔ n < 10 ^ count := by
  rw [digits, Text.ofChars, List.length_map]
  exact Nat.length_toDigits_le_iff (by decide) positive

/-- A number that a row of digits stands for is written with no more digits than the row has. -/
theorem length_digits_value_le {row : Text} (nonempty : row ≠ []) (isRow : row.IsRow) :
    (digits (value row)).length ≤ row.length :=
  -- Zeros in front of a number make a row longer, and nothing makes it shorter.
  (length_digits_le_iff (List.length_pos_iff.mpr nonempty)).mpr (value_lt isRow)

/-- Writing gives the digits of a number that has few enough of them. -/
theorem write_eq_ok_iff {n : Nat} {text : Text} :
    write n = .ok text ↔ (digits n).length ≤ digitLimit ∧ digits n = text := by
  unfold write
  split <;> simp [*]

section Plain

/-- A row of digits is plain if it begins with a zero only where that zero is all of it. -/
structure IsPlain (row : Text) : Prop where
  /-- There is at least one digit. -/
  nonempty : row ≠ []
  /-- There is nothing but digits. -/
  isRow : row.IsRow
  /-- No zero stands in front of another digit. -/
  leading : row.head? = some (.char '0') → row = [.char '0']

/-- A digit is written with the character that it was read from. -/
private theorem digitChar_of_isDigit {c : Char} (digit : c.isDigit) :
    Nat.digitChar (c.toNat - '0'.toNat) = c := by
  -- The ten digits begin with zero and follow each other, so there are ten cases.
  have bounds := CodePoint.bounds_of_isDigit (c := .char c) digit
  have number : CodePoint.toNat (.char c) = c.toNat := rfl
  have zero : '0'.toNat = 48 := rfl
  obtain ⟨place, small, same⟩ : ∃ place < 10, c.toNat = '0'.toNat + place :=
    ⟨c.toNat - 48, by omega, by omega⟩
  have each : ∀ place < 10, Nat.digitChar place = Char.ofNat ('0'.toNat + place) := by decide
  rw [same, Nat.add_sub_cancel_left, each place small, ← same, Char.ofNat_toNat]

/-- Digits without a leading zero are those of the number that they stand for. -/
private theorem toDigits_ofDigitChars {digits : List Char} (nonempty : digits ≠ [])
    (row : ∀ c ∈ digits, c.isDigit) (leading : digits.head? = some '0' → digits = ['0']) :
    Nat.toDigits 10 (Nat.ofDigitChars 10 digits 0) = digits := by
  -- The last digit is the remainder by ten, and those before it are the digits of the quotient.
  induction digits using List.reverseRecOn with
  | nil => exact absurd rfl nonempty
  | append_singleton front last ih =>
    have digit : last.isDigit := row last (by simp)
    have small := digit_lt_ten digit
    have sum : Nat.ofDigitChars 10 (front ++ [last]) 0 =
        10 * Nat.ofDigitChars 10 front 0 + (last.toNat - '0'.toNat) := by
      rw [Nat.ofDigitChars_append, Nat.ofDigitChars_cons, Nat.ofDigitChars_nil]
    by_cases only : front = []
    · subst only
      rw [sum, Nat.ofDigitChars_nil, Nat.mul_zero, Nat.zero_add, Nat.toDigits_of_lt_base small,
        digitChar_of_isDigit digit, List.nil_append]
    · -- With a digit behind it, the front may not begin with a zero at all.
      have high : front.head? ≠ some '0' := by
        intro zero
        have whole : (front ++ [last]).head? = some '0' := by
          rw [List.head?_append, zero, Option.some_or]
        have length := congrArg List.length (leading whole)
        rw [List.length_append, List.length_singleton, List.length_singleton] at length
        exact only (List.length_eq_zero_iff.mp (by omega))
      have quotient := ih only (fun c member => row c (by simp [member]))
        (fun zero => absurd zero high)
      have positive : Nat.ofDigitChars 10 front 0 ≠ 0 := by
        intro zero
        rw [zero, Nat.toDigits_zero] at quotient
        exact high (by rw [← quotient]; rfl)
      rw [sum, Nat.toDigits_of_base_le (by decide) (by omega)]
      have above : (10 * Nat.ofDigitChars 10 front 0 + (last.toNat - '0'.toNat)) / 10 =
          Nat.ofDigitChars 10 front 0 := by omega
      have below : (10 * Nat.ofDigitChars 10 front 0 + (last.toNat - '0'.toNat)) % 10 =
          last.toNat - '0'.toNat := by omega
      rw [above, below, quotient, digitChar_of_isDigit digit]

/-- A row is made of its characters. -/
private theorem ofChars_chars {row : Text} (isRow : row.IsRow) : Text.ofChars row.chars = row := by
  induction row with
  | nil => rfl
  | cons c rest ih =>
    have first := isRow c (by simp)
    have tail := ih fun d member => isRow d (by simp [member])
    -- Only a lone half would get lost, and it is no digit.
    cases c with
    | char c =>
      rw [Text.ofChars] at tail ⊢
      simpa [Text.chars, CodePoint.char?] using tail
    | half place => simp [CodePoint.isDigit, CodePoint.char?] at first

/-- A plain row is how the number that it stands for is written. -/
theorem digits_value {row : Text} (plain : IsPlain row) : digits (value row) = row := by
  have made := ofChars_chars plain.isRow
  have nonempty : row.chars ≠ [] := by
    intro empty
    rw [empty] at made
    exact plain.nonempty made.symm
  have leading : row.chars.head? = some '0' → row.chars = ['0'] := by
    intro zero
    -- The first character is the first code point, and one character makes one code point.
    have first : row.head? = some (.char '0') := by
      rw [← made, Text.ofChars, List.head?_map, zero]
      rfl
    rw [plain.leading first]
    rfl
  rw [value, digits, toDigits_ofDigitChars nonempty
    (fun c member => Text.isDigit_of_mem_chars plain.isRow member) leading, made]

/-- Every number is written plainly. -/
theorem isPlain_digits (n : Nat) : IsPlain (digits n) := by
  refine ⟨digits_ne_nil n, digits_isRow n, ?_⟩
  intro zero
  -- A zero adds nothing to the number, which the digits behind it would then stand for alone.
  obtain ⟨rest, whole⟩ := List.head?_eq_some_iff.mp zero
  by_cases only : rest = []
  · rw [whole, only]
  · exfalso
    have isRow : Text.IsRow rest := fun c member => digits_isRow n c (by simp [whole, member])
    have same : value rest = n := by
      rw [← value_digits n, whole]
      rfl
    have short := length_digits_value_le only isRow
    rw [same, whole, List.length_cons] at short
    omega

end Plain

end Decimal

end SolcRelease
