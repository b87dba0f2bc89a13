import SolcRelease.Text.Digit
import SolcRelease.Text.Utf8

/-! Bytes written as pairs of hexadecimal digits. -/

namespace SolcRelease

/-- Why a text is no hexadecimal byte string, the first that applies in this order. -/
inductive HexFlaw where
  /-- Some character is beyond ASCII. -/
  | nonAscii
  /-- The characters do not pair up. -/
  | oddLength
  /-- Some character is no hexadecimal digit. -/
  | badDigit
  deriving DecidableEq, Repr

/-- The wording of a flaw. -/
def HexFlaw.message : HexFlaw → Text
  | .nonAscii => "string argument should contain only ASCII characters"
  | .oddLength => "Odd-length string"
  | .badDigit => "Non-hexadecimal digit found"

namespace Hex

/-- Reads digits pair by pair, each pair giving one byte. -/
def pairs? : Text → Option Bytes
  | [] => some []
  | [_] => none
  | high :: low :: rest =>
    match hexDigit? high, hexDigit? low, pairs? rest with
    | some high, some low, some bytes => some (UInt8.ofNat (high * 16 + low) :: bytes)
    | _, _, _ => none

/-- Reads a hexadecimal byte string. -/
def decode (text : Text) : Except HexFlaw Bytes :=
  if text.any (0x80 ≤ ·.toNat) then .error .nonAscii
  else if text.length % 2 = 1 then .error .oddLength
  else
    match pairs? text with
    | some bytes => .ok bytes
    | none => .error .badDigit

/-- Writes each byte as two lower-case digits. -/
def encode (bytes : Bytes) : Text :=
  bytes.flatMap fun byte => [hexDigit (byte.toNat / 16), hexDigit (byte.toNat % 16)]

end Hex

end SolcRelease
