import SolcRelease.Decimal.Binary64
import SolcRelease.Text.Blank
import SolcRelease.Text.Digit

/-!
Numbers as people write them in settings: blanks around them, digits of any script, a sign, and
single underscores between digits.
-/

namespace SolcRelease

/-- Why a text is no integer. -/
inductive WholeFlaw where
  /-- The text is not written as an integer. -/
  | malformed
  /-- The text is a sign and digits, but too many of them. -/
  | tooLong (excess : TooManyDigits)
  deriving DecidableEq, Repr

namespace Numeral

/-- A digit of any script as the plain digit of the same value. -/
def plainDigit (c : CodePoint) : CodePoint :=
  match decimalDigit? c with
  | some value => .char (Nat.digitChar value)
  | none => c

/-- The text without blanks around it and with plain digits only. -/
def plain (text : Text) : Text :=
  (text.stripBy isNumeralBlank).map plainDigit

/-- A sign in front, as a flag for minus, and the rest. -/
def splitSign : Text → Bool × Text
  | .char '-' :: rest => (true, rest)
  | .char '+' :: rest => (false, rest)
  | rest => (false, rest)

/-- Tells whether every underscore of a text stands between two digits. -/
def underscoresBetweenDigits : Text → Bool
  | [] => true
  | .char '_' :: _ => false
  | c :: .char '_' :: d :: rest =>
    c.isDigit && d.isDigit && underscoresBetweenDigits (d :: rest)
  | [_, .char '_'] => false
  | _ :: rest => underscoresBetweenDigits rest

/-- Reads an integer. -/
def whole (text : Text) : Except WholeFlaw Int :=
  let (negative, body) := splitSign (plain text)
  let run := body.takeWhile fun c : CodePoint => c.isDigit || c == '_'
  let digits := run.filter CodePoint.isDigit
  if run.isEmpty || !underscoresBetweenDigits run then .error .malformed
  else
    -- An excess of digits is noticed before anything that follows them.
    match Decimal.read digits with
    | .error excess => .error (.tooLong excess)
    | .ok value =>
      if run.length = body.length then .ok (if negative then -value else value)
      else .error .malformed

/-- The exponent part of a decimal, which may be missing. -/
def exponent? : Text → Option Int
  | [] => some 0
  | mark :: rest =>
    let (negative, digits) := splitSign rest
    if (mark == 'e' || mark == 'E') && !digits.isEmpty && digits.all CodePoint.isDigit then
      let value : Int := Decimal.value digits
      some (if negative then -value else value)
    else none

/-- Reads a decimal without sign: digits with an optional point, and an optional exponent. -/
def decimal? (negative : Bool) (text : Text) : Option ExactDecimal :=
  let before := text.takeWhile CodePoint.isDigit
  let rest := text.dropWhile CodePoint.isDigit
  let (after, rest) :=
    match rest with
    | .char '.' :: rest => (rest.takeWhile CodePoint.isDigit, rest.dropWhile CodePoint.isDigit)
    | rest => ([], rest)
  if before.isEmpty && after.isEmpty then none
  else
    (exponent? rest).map fun exponent =>
      ⟨negative, Decimal.value (before ++ after), exponent - after.length⟩

/-- Reads a floating-point number, which may be infinite or no number at all. -/
def real? (text : Text) : Option Binary64 :=
  let text := plain text
  if !underscoresBetweenDigits text then none
  else
    let (negative, body) := splitSign (text.filter (· != '_'))
    let word := body.map CodePoint.toLower
    if word = "nan" then some .nan
    else if word = "inf" || word = "infinity" then some (.infinite negative)
    else (decimal? negative body).map Binary64.ofDecimal

end Numeral

end SolcRelease
