import SolcRelease.Text.Basic

/-! Bytes as text in UTF-8, with a stand-in for every sequence that encodes nothing. -/

namespace SolcRelease

/-- A byte string. -/
abbrev Bytes := List UInt8

namespace Utf8

/-- A character of which some bytes are still to come. -/
structure Pending where
  /-- How many bytes follow the next one. -/
  after : Nat
  /-- The least value the next byte may have. -/
  low : Nat
  /-- The greatest value the next byte may have. -/
  high : Nat
  /-- The part of the code point read so far. -/
  bits : Nat

/-- The character that stands in for bytes that encode none. -/
def replacement : CodePoint := '\ufffd'

/-- What the first byte of a character announces, when it announces more bytes. -/
def lead? (byte : Nat) : Option Pending :=
  -- The second byte is bounded so that no shorter form, surrogate or number past the end gets by.
  if 0xc2 ≤ byte ∧ byte ≤ 0xdf then some ⟨0, 0x80, 0xbf, byte - 0xc0⟩
  else if byte = 0xe0 then some ⟨1, 0xa0, 0xbf, 0⟩
  else if byte = 0xed then some ⟨1, 0x80, 0x9f, 0xd⟩
  else if 0xe1 ≤ byte ∧ byte ≤ 0xef then some ⟨1, 0x80, 0xbf, byte - 0xe0⟩
  else if byte = 0xf0 then some ⟨2, 0x90, 0xbf, 0⟩
  else if 0xf1 ≤ byte ∧ byte ≤ 0xf3 then some ⟨2, 0x80, 0xbf, byte - 0xf0⟩
  else if byte = 0xf4 then some ⟨2, 0x80, 0x8f, 4⟩
  else none

/-- A byte at the start of a character: the text it yields and what it leaves pending. -/
def start (byte : Nat) : Text × Option Pending :=
  if byte < 0x80 then ([Char.ofNat byte], none)
  else
    match lead? byte with
    | some pending => ([], some pending)
    | none => ([replacement], none)

/-- A byte after the first of a character: the text it yields and what it leaves pending. -/
def extend (pending : Pending) (byte : Nat) : Text × Option Pending :=
  if pending.low ≤ byte ∧ byte ≤ pending.high then
    let bits := pending.bits * 64 + (byte - 0x80)
    match pending.after with
    | 0 => ([Char.ofNat bits], none)
    | after + 1 => ([], some ⟨after, 0x80, 0xbf, bits⟩)
  else
    -- The unfinished sequence becomes one stand-in, and the byte starts afresh.
    let (text, rest) := start byte
    (replacement :: text, rest)

/-- The text of the bytes that follow an unfinished character, if there is one. -/
def decodeFrom : Option Pending → Bytes → Text
  | none, [] => []
  | some _, [] => [replacement]
  | none, byte :: bytes =>
    let (text, pending) := start byte.toNat
    text ++ decodeFrom pending bytes
  | some pending, byte :: bytes =>
    let (text, pending) := extend pending byte.toNat
    text ++ decodeFrom pending bytes

/-- The text of any bytes: each longest sequence that starts no character becomes one stand-in. -/
def decodeLenient (bytes : Bytes) : Text :=
  decodeFrom none bytes

/-- What the first byte of a character or of a lone half announces. -/
def leadOfAny? (byte : Nat) : Option Pending :=
  if byte = 0xed then some ⟨1, 0x80, 0xbf, 0xd⟩ else lead? byte

/-- The text of the bytes that follow an unfinished code point, if they are UTF-8 throughout. -/
def decodeFrom? : Option Pending → Bytes → Option Text
  | none, [] => some []
  | some _, [] => none
  | none, byte :: bytes =>
    if byte < 0x80 then (decodeFrom? none bytes).map (.char (Char.ofNat byte.toNat) :: ·)
    else
      match leadOfAny? byte.toNat with
      | some pending => decodeFrom? (some pending) bytes
      | none => none
  | some pending, byte :: bytes =>
    if pending.low ≤ byte.toNat ∧ byte.toNat ≤ pending.high then
      let bits := pending.bits * 64 + (byte.toNat - 0x80)
      match pending.after with
      | 0 => (decodeFrom? none bytes).map (CodePoint.ofNat bits :: ·)
      | after + 1 => decodeFrom? (some ⟨after, 0x80, 0xbf, bits⟩) bytes
    else none

/-- The text of bytes that are UTF-8 throughout, where lone halves pass like characters. -/
def decode? (bytes : Bytes) : Option Text :=
  decodeFrom? none bytes

/-- The bytes of a text, where a lone half gives those of its stand-in. -/
def encode (text : Text) : Bytes :=
  text.toString.toUTF8.toList

end Utf8

end SolcRelease
