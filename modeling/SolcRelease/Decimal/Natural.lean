import SolcRelease.Text.Basic

/-! Whole numbers as decimal text, with a limit on the number of digits. -/

namespace SolcRelease

/-- The most digits a whole number may have when it is read from text or written as text. -/
def digitLimit : Nat := 4300

/-- A whole number has more digits than the limit. -/
inductive TooManyDigits where
  /-- The text to be read has this many digits, leading zeros counted. -/
  | reading (digits : Nat)
  /-- The number to be written needs more digits. -/
  | writing
  deriving DecidableEq, Repr

namespace Decimal

/-- The decimal digits of a natural number, without leading zeros. -/
def digits (n : Nat) : Text :=
  Text.ofChars (Nat.toDigits 10 n)

/-- The value of a text of decimal digits. -/
def value (digits : Text) : Nat :=
  Nat.ofDigitChars 10 digits.chars 0

/-- The decimal text of an integer of any size. -/
def signed : Int → Text
  | .ofNat n => digits n
  | .negSucc n => '-' :: digits (n + 1)

/-- Writes a natural number, unless it has too many digits. -/
def write (n : Nat) : Except TooManyDigits Text :=
  if (digits n).length ≤ digitLimit then .ok (digits n) else .error .writing

/-- Writes an integer, unless it has too many digits; the sign is not counted. -/
def writeSigned (n : Int) : Except TooManyDigits Text :=
  if (digits n.natAbs).length ≤ digitLimit then .ok (signed n) else .error .writing

/-- Reads a text that is known to hold digits only, unless it has too many. -/
def read (digits : Text) : Except TooManyDigits Nat :=
  if digits.length ≤ digitLimit then .ok (value digits) else .error (.reading digits.length)

end Decimal

/-- The wording of an excess of digits. -/
def TooManyDigits.message : TooManyDigits → Text
  | .reading count =>
    "Exceeds the limit (4300 digits) for integer string conversion: value has "
      ++ Decimal.digits count
      ++ " digits; use sys.set_int_max_str_digits() to increase the limit"
  | .writing =>
    "Exceeds the limit (4300 digits) for integer string conversion; use "
      ++ "sys.set_int_max_str_digits() to increase the limit"

end SolcRelease
