/-!
Code points. A document can name some that are no characters, the halves of surrogate pairs, and
a half that stands alone is an element of a text like any character.
-/

namespace SolcRelease

/-- An element of a text. -/
inductive CodePoint where
  /-- A character. -/
  | char (c : Char)
  /-- A lone half of a surrogate pair, by its place among the halves. -/
  | half (place : Fin 0x800)
  deriving DecidableEq, Repr

instance : Coe Char CodePoint := ⟨.char⟩

namespace CodePoint

/-- The number of a code point. -/
def toNat : CodePoint → Nat
  | .char c => c.toNat
  | .half place => 0xd800 + place

/-- The code point with a number. -/
def ofNat (code : Nat) : CodePoint :=
  if within : 0xd800 ≤ code ∧ code ≤ 0xdfff then .half ⟨code - 0xd800, by omega⟩
  else .char (Char.ofNat code)

/-- The character that a code point is, unless it is a half. -/
def char? : CodePoint → Option Char
  | .char c => some c
  | .half _ => none

/-- Tells whether a code point is a lone half. -/
def isHalf (c : CodePoint) : Bool :=
  c.char?.isNone

/-- Tells whether a code point is a decimal digit of ASCII. -/
def isDigit (c : CodePoint) : Bool :=
  c.char?.any Char.isDigit

/-- Tells whether a code point is a letter of ASCII. -/
def isAlpha (c : CodePoint) : Bool :=
  c.char?.any Char.isAlpha

/-- Tells whether a code point is a letter or decimal digit of ASCII. -/
def isAlphanum (c : CodePoint) : Bool :=
  c.isAlpha || c.isDigit

/-- The small letter of a capital of ASCII; every other code point stays. -/
def toLower : CodePoint → CodePoint
  | .char c => .char c.toLower
  | .half place => .half place

/-- The capital of a small letter of ASCII; every other code point stays. -/
def toUpper : CodePoint → CodePoint
  | .char c => .char c.toUpper
  | .half place => .half place

/-- The code point that two halves form together, if they are a pair in this order. -/
def paired? (high low : Nat) : Option Nat :=
  if 0xd800 ≤ high ∧ high ≤ 0xdbff ∧ 0xdc00 ≤ low ∧ low ≤ 0xdfff then
    some (0x10000 + (high - 0xd800) * 0x400 + (low - 0xdc00))
  else none

/-- A code point is the one with its number. -/
theorem ofNat_toNat (c : CodePoint) : ofNat c.toNat = c := by
  cases c with
  | char c =>
    -- No character has a number between those of the halves.
    have outside : ¬ (0xd800 ≤ c.toNat ∧ c.toNat ≤ 0xdfff) := by
      have := c.valid
      simp only [UInt32.isValidChar, Nat.isValidChar, Char.toNat] at this ⊢
      omega
    simp [ofNat, toNat, outside]
  | half place =>
    have within : 0xd800 + place.val ≤ 0xdfff := by omega
    simp [ofNat, toNat, within]

/-- Every number up to the last code point is that of a code point. -/
theorem toNat_ofNat {code : Nat} (small : code ≤ 0x10ffff) : (ofNat code).toNat = code := by
  by_cases within : 0xd800 ≤ code ∧ code ≤ 0xdfff
  · simp only [ofNat, within, and_self, dif_pos, toNat]
    omega
  · have valid : code.isValidChar := by
      simp only [Nat.isValidChar]
      omega
    rw [ofNat, dif_neg within, toNat, Char.ofNat, dif_pos valid]
    rfl

end CodePoint

end SolcRelease
