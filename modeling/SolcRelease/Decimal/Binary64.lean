import SolcRelease.Decimal.Natural

/-! Binary floating-point numbers of 64 bits, held exactly, and their reading from decimals. -/

namespace SolcRelease

/-- A number of the 64-bit binary format. -/
inductive Binary64 where
  /-- The value that is no number. -/
  | nan
  /-- Infinity of either sign. -/
  | infinite (negative : Bool)
  /-- The number with this sign, whose size is the significand times two to the exponent. -/
  | finite (negative : Bool) (significand : Nat) (exponent : Int)
  deriving DecidableEq, Repr

/-- An exact decimal: a sign and a coefficient times ten to an exponent. -/
structure ExactDecimal where
  /-- Whether the sign is minus; a zero has a sign too. -/
  negative : Bool
  /-- The digits, read as one natural number. -/
  coefficient : Nat
  /-- The power of ten that scales the coefficient. -/
  exponent : Int
  deriving DecidableEq, Repr

namespace Binary64

/-- The least significand of full width, which is two to the power of 52. -/
def leastFullSignificand : Nat := Nat.pow 2 52

/-- The exponent of the smallest numbers. -/
def leastExponent : Int := -1074

/-- The exponent of the greatest numbers. -/
def greatestExponent : Int := 971

/-- The number zero. -/
def zero (negative : Bool) : Binary64 :=
  .finite negative 0 leastExponent

/-- Numerator and denominator of a fraction after division by a power of two. -/
def dividedByPower (numerator denominator : Nat) : Int → Nat × Nat
  | .ofNat n => (numerator, denominator * Nat.pow 2 n)
  | .negSucc n => (numerator * Nat.pow 2 (n + 1), denominator)

/-- The whole number nearest to a fraction; a tie goes to the even neighbour. -/
def nearestWhole (numerator denominator : Nat) : Nat :=
  let floor := numerator / denominator
  let twice := 2 * (numerator % denominator)
  if twice < denominator ∨ (twice = denominator ∧ floor % 2 = 0) then floor else floor + 1

/--
The exponent at which a positive fraction is rounded.

It leaves the significand its full width, or is the least one where the number is too small.
-/
def roundingExponent (numerator denominator : Nat) : Int :=
  -- The difference of the two lengths is off by one at most, which one division settles.
  let guess : Int := numerator.log2 - denominator.log2 - 52
  let (top, bottom) := dividedByPower numerator denominator guess
  let exponent := if top / bottom < leastFullSignificand then guess - 1 else guess
  if exponent < leastExponent then leastExponent else exponent

/-- The number nearest to a fraction with a positive denominator. -/
def ofFraction (negative : Bool) (numerator denominator : Nat) : Binary64 :=
  if numerator = 0 then zero negative
  else
    let exponent := roundingExponent numerator denominator
    let (top, bottom) := dividedByPower numerator denominator exponent
    let significand := nearestWhole top bottom
    -- Rounding up may carry into one more bit, which belongs to the next exponent.
    let (significand, exponent) :=
      if significand = 2 * leastFullSignificand then (leastFullSignificand, exponent + 1)
      else (significand, exponent)
    if exponent > greatestExponent then .infinite negative
    else .finite negative significand exponent

/-- The number nearest to an exact decimal. -/
def ofDecimal (decimal : ExactDecimal) : Binary64 :=
  let { negative, coefficient, exponent } := decimal
  let magnitude := (Decimal.digits coefficient).length + exponent
  if coefficient = 0 then zero negative
  -- No power of ten is formed for a number that is certain to overflow or to vanish.
  else if magnitude > 310 then .infinite negative
  else if magnitude < -330 then zero negative
  else
    match exponent with
    | .ofNat n => ofFraction negative (coefficient * Nat.pow 10 n) 1
    | .negSucc n => ofFraction negative coefficient (Nat.pow 10 (n + 1))

/-- Tells whether a number equals zero, whatever its sign. -/
def isZero : Binary64 → Bool
  | .finite _ significand _ => significand == 0
  | _ => false

end Binary64

end SolcRelease
