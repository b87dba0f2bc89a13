import SolcRelease.Text.Basic

/-! Blank characters, and texts with the blanks around them removed. -/

namespace SolcRelease

/-- Unicode white space beyond the ASCII range. -/
def isWideBlank (c : CodePoint) : Bool :=
  c.toNat == 0x85 || c.toNat == 0xa0 || c.toNat == 0x1680
    || (0x2000 ≤ c.toNat && c.toNat ≤ 0x200a)
    || c.toNat == 0x2028 || c.toNat == 0x2029 || c.toNat == 0x202f
    || c.toNat == 0x205f || c.toNat == 0x3000

/-- Tab, line feed, the two other vertical movements, carriage return and space. -/
def isAsciiBlank (c : CodePoint) : Bool :=
  (0x09 ≤ c.toNat && c.toNat ≤ 0x0d) || c.toNat == 0x20

/-- The four information separators of ASCII, which a text may have around it but a number not. -/
def isSeparator (c : CodePoint) : Bool :=
  0x1c ≤ c.toNat && c.toNat ≤ 0x1f

/-- A blank around a text: Unicode white space or an information separator. -/
def isBlank (c : CodePoint) : Bool :=
  isAsciiBlank c || isSeparator c || isWideBlank c

/-- A blank around a number in a setting. -/
def isNumeralBlank (c : CodePoint) : Bool :=
  isAsciiBlank c || isWideBlank c

/-- The text without the characters of a class at either end. -/
def Text.stripBy (blank : CodePoint → Bool) (text : Text) : Text :=
  ((text.dropWhile blank).reverse.dropWhile blank).reverse

/-- The text without blanks at either end. -/
def Text.strip (text : Text) : Text :=
  text.stripBy isBlank

end SolcRelease
