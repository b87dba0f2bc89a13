import SolcRelease.Text.Utf8

/-!
The encodings in which the bytes of a JSON document may come.

A document begins with two characters of ASCII, so where its first bytes are zero tells the width
of its units and their order, unless a mark at the very beginning tells it already.
-/

namespace SolcRelease

namespace Json

/-- An encoding of texts. -/
inductive Encoding where
  /-- Units of one byte. -/
  | utf8
  /-- Units of two bytes, the more significant first or last. -/
  | utf16 (bigFirst : Bool)
  /-- Units of four bytes, the more significant first or last. -/
  | utf32 (bigFirst : Bool)
  deriving DecidableEq, Repr

namespace Encoding

/-- The encoding that a mark at the beginning tells, and the bytes after the mark. -/
def marked? : Bytes → Option (Encoding × Bytes)
  | 0x00 :: 0x00 :: 0xfe :: 0xff :: rest => some (.utf32 true, rest)
  | 0xff :: 0xfe :: 0x00 :: 0x00 :: rest => some (.utf32 false, rest)
  | 0xfe :: 0xff :: rest => some (.utf16 true, rest)
  | 0xff :: 0xfe :: rest => some (.utf16 false, rest)
  | 0xef :: 0xbb :: 0xbf :: rest => some (.utf8, rest)
  | _ => none

/-- The encoding that the zeros among the first bytes tell. -/
def ofZeros : Bytes → Encoding
  | a :: b :: c :: d :: _ =>
    if a = 0 then if b = 0 then .utf32 true else .utf16 true
    else if b = 0 then if c = 0 ∧ d = 0 then .utf32 false else .utf16 false
    else .utf8
  | [a, b] => if a = 0 then .utf16 true else if b = 0 then .utf16 false else .utf8
  | _ => .utf8

/-- The numbers in a row of two-byte units. -/
def units16? (bigFirst : Bool) : Bytes → Option (List Nat)
  | [] => some []
  | [_] => none
  | a :: b :: rest =>
    let unit := if bigFirst then a.toNat * 256 + b.toNat else b.toNat * 256 + a.toNat
    (units16? bigFirst rest).map (unit :: ·)

/-- The numbers in a row of four-byte units. -/
def units32? (bigFirst : Bool) : Bytes → Option (List Nat)
  | [] => some []
  | a :: b :: c :: d :: rest =>
    let high := a.toNat * 256 + b.toNat
    let low := c.toNat * 256 + d.toNat
    let swappedHigh := d.toNat * 256 + c.toNat
    let swappedLow := b.toNat * 256 + a.toNat
    let unit := if bigFirst then high * 65536 + low else swappedHigh * 65536 + swappedLow
    (units32? bigFirst rest).map (unit :: ·)
  | _ => none

/-- The text of two-byte units, in which two halves of a pair make one character. -/
def ofUnits16 : List Nat → Text
  | high :: low :: rest =>
    match CodePoint.paired? high low with
    | some code => CodePoint.ofNat code :: ofUnits16 rest
    | none => CodePoint.ofNat high :: ofUnits16 (low :: rest)
  | [unit] => [CodePoint.ofNat unit]
  | [] => []

/-- The text of four-byte units, each a code point. -/
def ofUnits32? (units : List Nat) : Option Text :=
  if units.all (· ≤ 0x10ffff) then some (units.map CodePoint.ofNat) else none

/-- The text of bytes in an encoding. -/
def decode? (encoding : Encoding) (bytes : Bytes) : Option Text :=
  match encoding with
  | .utf8 => Utf8.decode? bytes
  | .utf16 bigFirst => (units16? bigFirst bytes).map ofUnits16
  | .utf32 bigFirst => (units32? bigFirst bytes).bind ofUnits32?

/-- The text of the bytes of a JSON document. -/
def documentText? (bytes : Bytes) : Option Text :=
  match marked? bytes with
  | some (encoding, rest) => encoding.decode? rest
  | none => (ofZeros bytes).decode? bytes

end Encoding

end Json

end SolcRelease
