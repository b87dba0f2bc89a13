import SolcRelease.Decimal.Binary64

/-! The shortest decimal that reads back as a given floating-point number. -/

namespace SolcRelease

/-- Decimal digits with the place of the point: the value is `0.digits` times ten to the point. -/
structure PointedDigits where
  /-- The digits, of which the first is not zero. -/
  digits : Text
  /-- How many digits stand before the point, which may be none or fewer than none. -/
  point : Int

namespace Shortest

/--
The reals that round to a positive number, in quarters of its last place.

All three share the denominator, so that a decimal is compared with them by multiplication.
-/
structure Interval where
  /-- The numerator of the lower end. -/
  low : Nat
  /-- The numerator of the number itself. -/
  centre : Nat
  /-- The numerator of the upper end. -/
  high : Nat
  /-- The common denominator. -/
  denominator : Nat
  /-- Whether the ends round to the number as well. -/
  closed : Bool

/-- The interval around the number with a given significand and exponent. -/
def interval (significand : Nat) (exponent : Int) : Interval :=
  -- Below a power of two the neighbours lie closer, so the lower end is nearer.
  let atPower : Bool :=
    significand == Binary64.leastFullSignificand && Binary64.leastExponent < exponent
  let below := if atPower then 1 else 2
  let (up, denominator) : Nat × Nat :=
    match exponent - 2 with
    | .ofNat n => (Nat.pow 2 n, 1)
    | .negSucc n => (1, Nat.pow 2 (n + 1))
  { low := (4 * significand - below) * up
    centre := 4 * significand * up
    high := (4 * significand + 2) * up
    denominator
    closed := significand % 2 = 0 }

/-- The number of digits before the point of a positive fraction. -/
def pointOf (numerator denominator : Nat) : Int :=
  if denominator ≤ numerator then (Decimal.digits (numerator / denominator)).length
  -- Below one, the digits of the reciprocal count the zeros after the point.
  else 1 - (Decimal.digits ((denominator - 1) / numerator)).length

/-- Tells whether a fraction lies in an interval. -/
def Interval.holds (range : Interval) (numerator denominator : Nat) : Bool :=
  let here := numerator * range.denominator
  if range.closed then range.low * denominator ≤ here && here ≤ range.high * denominator
  else range.low * denominator < here && here < range.high * denominator

/-- The better of the two decimals of a given length around the centre, if one fits. -/
def candidate? (range : Interval) (point : Int) (count : Nat) : Option PointedDigits :=
  -- The grid has one point per unit of the last digit.
  let (unitTop, unitBottom) : Nat × Nat :=
    match point - count with
    | .ofNat n => (Nat.pow 10 n, 1)
    | .negSucc n => (1, Nat.pow 10 (n + 1))
  let floor := range.centre * unitBottom / (range.denominator * unitTop)
  let fits (steps : Nat) : Bool := range.holds (steps * unitTop) unitBottom
  -- Of two that fit the nearer is taken, and halfway between them the even one.
  let nearest := Binary64.nearestWhole (range.centre * unitBottom) (range.denominator * unitTop)
  let chosen? : Option Nat :=
    match fits floor, fits (floor + 1) with
    | true, true => some nearest
    | true, false => some floor
    | false, true => some (floor + 1)
    | false, false => none
  chosen?.map fun chosen =>
    let digits := Decimal.digits chosen
    -- The step above a row of nines has one digit more, which moves the point.
    { digits := (digits.reverse.dropWhile fun c : CodePoint => c == '0').reverse
      point := point + (digits.length - count : Int) }

/-- The shortest digits that read back, and of those the nearest ones. -/
def digits (significand : Nat) (exponent : Int) : PointedDigits :=
  let range := interval significand exponent
  let point := pointOf range.centre range.denominator
  -- Seventeen digits always tell two neighbours apart.
  match (List.range 17).findSome? fun count => candidate? range point (count + 1) with
  | some found => found
  | none => ⟨"0", 1⟩

end Shortest

/-- The decimal exponent in scientific notation: a sign and at least two digits. -/
def exponentText (exponent : Int) : Text :=
  let digits := Decimal.digits exponent.natAbs
  (if exponent < 0 then "-" else "+") ++ Text.zeros (2 - digits.length) ++ digits

/--
Digits with their point written out.

The notation is positional from `0.0001` up to sixteen digits before the point, and a whole number
keeps `.0`; beyond that it is scientific.
-/
def PointedDigits.text (number : PointedDigits) : Text :=
  let { digits, point } := number
  if -4 < point ∧ point ≤ 16 then
    if point ≤ 0 then "0." ++ Text.zeros point.natAbs ++ digits
    else if digits.length ≤ point then
      digits ++ Text.zeros (point.toNat - digits.length) ++ ".0"
    else digits.take point.toNat ++ "." ++ digits.drop point.toNat
  else
    let mantissa :=
      match digits with
      | first :: second :: rest => first :: '.' :: second :: rest
      | few => few
    mantissa ++ "e" ++ exponentText (point - 1)

/-- The text of a floating-point number. -/
def Binary64.text : Binary64 → Text
  | .nan => "nan"
  | .infinite negative => if negative then "-inf" else "inf"
  | .finite negative significand exponent =>
    let sign : Text := if negative then "-" else ""
    if significand = 0 then sign ++ "0.0"
    else sign ++ (Shortest.digits significand exponent).text

end SolcRelease
