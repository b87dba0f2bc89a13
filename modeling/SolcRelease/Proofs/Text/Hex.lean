import Mathlib.Data.List.Forall2
import SolcRelease.Text.Hex

/-! Hexadecimal texts: which bytes a text denotes, whatever the case of its letters. -/

namespace SolcRelease

section Digits

/-- A capital lies thirty-two places before its small letter, and no other character moves. -/
theorem toNat_toLower (c : Char) :
    c.toLower.toNat = if 65 ≤ c.toNat ∧ c.toNat ≤ 90 then c.toNat + 32 else c.toNat := by
  have capital : ('A'.val ≤ c.val ∧ c.val ≤ 'Z'.val) ↔ 65 ≤ c.toNat ∧ c.toNat ≤ 90 := by
    simp only [UInt32.le_iff_toNat_le]
    rfl
  unfold Char.toLower
  simp only [ge_iff_le, ← capital]
  split
  · rename_i within
    obtain ⟨-, most⟩ := capital.mp within
    -- The sum is far below the limit of the numbers that it is taken in.
    have number : c.val.toNat = c.toNat := rfl
    have distance : ('a'.val - 'A'.val).toNat = 32 := rfl
    have moved : (c.val + ('a'.val - 'A'.val)).toNat = c.toNat + 32 := by
      rw [UInt32.toNat_add, distance, number, Nat.mod_eq_of_lt]
      omega
    exact moved
  · rfl

/-- The number of the digit of a value. -/
theorem toNat_hexDigit {value : Nat} (small : value < 16) :
    (hexDigit value).toNat = if value < 10 then 48 + value else 87 + value := by
  -- There are only sixteen values to try.
  have each : ∀ value < 16,
      (hexDigit value).toNat = if value < 10 then 48 + value else 87 + value := by decide
  exact each value small

/-- A small hexadecimal digit is a letter just if it is no decimal digit. -/
theorem isAlpha_hexDigit {value : Nat} (small : value < 16) :
    (CodePoint.char (hexDigit value)).isAlpha = !(CodePoint.char (hexDigit value)).isDigit := by
  -- There are only sixteen values to try.
  have each : ∀ value < 16, (CodePoint.char (hexDigit value)).isAlpha =
      !(CodePoint.char (hexDigit value)).isDigit := by decide
  exact each value small

/-- A code point has a value if its small form is the digit of that value. -/
theorem hexDigit?_eq_some_iff {c : CodePoint} {value : Nat} :
    hexDigit? c = some value ↔ value < 16 ∧ c.toLower = .char (hexDigit value) := by
  cases c with
  | half place => simp [hexDigit?, CodePoint.toLower]
  | char c =>
    -- On both sides there is nothing but a comparison of numbers.
    have digit : ('0' ≤ c ∧ c ≤ '9') ↔ 48 ≤ c.toNat ∧ c.toNat ≤ 57 := by
      simp only [Char.le_def, UInt32.le_iff_toNat_le]
      rfl
    have small : ('a' ≤ c ∧ c ≤ 'f') ↔ 97 ≤ c.toNat ∧ c.toNat ≤ 102 := by
      simp only [Char.le_def, UInt32.le_iff_toNat_le]
      rfl
    have capital : ('A' ≤ c ∧ c ≤ 'F') ↔ 65 ≤ c.toNat ∧ c.toNat ≤ 70 := by
      simp only [Char.le_def, UInt32.le_iff_toNat_le]
      rfl
    have zero : '0'.toNat = 48 := rfl
    have smallA : 'a'.toNat = 97 := rfl
    have capitalA : 'A'.toNat = 65 := rfl
    simp only [hexDigit?, CodePoint.toLower, CodePoint.char.injEq, Bool.and_eq_true,
      decide_eq_true_eq, digit, small, capital, zero, smallA, capitalA]
    constructor
    · intro found
      have bounded : value < 16 := by grind
      refine ⟨bounded, Char.toNat_inj.mp ?_⟩
      rw [toNat_toLower, toNat_hexDigit bounded]
      grind
    · rintro ⟨bounded, same⟩
      have numbers := Char.toNat_inj.mpr same
      rw [toNat_toLower, toNat_hexDigit bounded] at numbers
      grind

/-- A code point with a value is one of ASCII. -/
theorem toNat_lt_of_hexDigit? {c : CodePoint} {value : Nat} (found : hexDigit? c = some value) :
    c.toNat < 0x80 := by
  obtain ⟨small, lower⟩ := hexDigit?_eq_some_iff.mp found
  cases c with
  | half place => cases lower
  | char c =>
    have numbers : c.toLower.toNat = (hexDigit value).toNat :=
      congrArg Char.toNat (CodePoint.char.inj lower)
    rw [toNat_toLower, toNat_hexDigit small] at numbers
    -- Small letters lie behind their capitals, and no digit lies beyond ASCII.
    show c.toNat < 0x80
    split at numbers <;> split at numbers <;> omega

end Digits

namespace Hex

variable {text : Text} {bytes : Bytes}

/-- The digits of some bytes are those of the first, and then those of the others. -/
theorem encode_cons (byte : UInt8) (rest : Bytes) :
    encode (byte :: rest) =
      .char (hexDigit (byte.toNat / 16)) :: .char (hexDigit (byte.toNat % 16)) :: encode rest :=
  rfl

/-- The high half of a byte is the value of a digit. -/
theorem high_lt (byte : UInt8) : byte.toNat / 16 < 16 := by
  have := byte.toNat_lt
  omega

/-- The byte of two values has them for its high and its low half. -/
theorem halves_of_ofNat {high low : Nat} (isHigh : high < 16) (isLow : low < 16) :
    (UInt8.ofNat (high * 16 + low)).toNat / 16 = high ∧
      (UInt8.ofNat (high * 16 + low)).toNat % 16 = low := by
  have whole : (UInt8.ofNat (high * 16 + low)).toNat = high * 16 + low := by
    rw [UInt8.toNat_ofNat', Nat.mod_eq_of_lt]
    omega
  omega

/-- A pair in front gives one byte in front, if both of its digits have values. -/
theorem pairs?_cons_eq_some_iff {high low : CodePoint} {rest : Text} :
    pairs? (high :: low :: rest) = some bytes ↔
      ∃ highValue lowValue more, hexDigit? high = some highValue ∧ hexDigit? low = some lowValue ∧
        pairs? rest = some more ∧ UInt8.ofNat (highValue * 16 + lowValue) :: more = bytes := by
  rw [pairs?]
  split
  · rename_i highValue lowValue more isHigh isLow isMore
    simp [isHigh, isLow, isMore]
  · -- One of the three has nothing to give.
    rename_i missing
    refine iff_of_false nofun ?_
    rintro ⟨highValue, lowValue, more, isHigh, isLow, isMore, -⟩
    exact missing highValue lowValue more isHigh isLow isMore

/-- Pairs of digits denote the bytes of which they are the digits, if written small. -/
theorem pairs?_eq_some_iff :
    ∀ {text : Text} {bytes : Bytes},
      pairs? text = some bytes ↔ text.map CodePoint.toLower = encode bytes
  | [], [] => iff_of_true rfl rfl
  | [], byte :: rest => iff_of_false nofun nofun
  | [lone], [] => iff_of_false nofun nofun
  | [lone], byte :: rest => by
    -- One digit is too few for a byte.
    simp [pairs?, encode_cons]
  | high :: low :: rest, bytes => by
    rw [pairs?_cons_eq_some_iff]
    constructor
    · rintro ⟨highValue, lowValue, more, isHigh, isLow, isMore, rfl⟩
      obtain ⟨highSmall, highLower⟩ := hexDigit?_eq_some_iff.mp isHigh
      obtain ⟨lowSmall, lowLower⟩ := hexDigit?_eq_some_iff.mp isLow
      obtain ⟨highHalf, lowHalf⟩ := halves_of_ofNat highSmall lowSmall
      rw [encode_cons, highHalf, lowHalf, ← pairs?_eq_some_iff.mp isMore, List.map_cons,
        List.map_cons, highLower, lowLower]
    · intro same
      cases bytes with
      | nil => cases same
      | cons byte more =>
        -- The two halves of the first byte are the values of the first two digits.
        rw [encode_cons, List.map_cons, List.map_cons, List.cons.injEq, List.cons.injEq] at same
        obtain ⟨highLower, lowLower, others⟩ := same
        refine ⟨byte.toNat / 16, byte.toNat % 16, more,
          hexDigit?_eq_some_iff.mpr ⟨high_lt byte, highLower⟩,
          hexDigit?_eq_some_iff.mpr ⟨Nat.mod_lt _ (by decide), lowLower⟩,
          pairs?_eq_some_iff.mpr others, ?_⟩
        rw [Nat.div_add_mod', UInt8.ofNat_toNat]

/-- Every digit of some bytes is that of a value below sixteen. -/
theorem exists_of_mem_encode {c : CodePoint} (member : c ∈ encode bytes) :
    ∃ value < 16, c = .char (hexDigit value) := by
  obtain ⟨byte, -, half⟩ := List.mem_flatMap.mp member
  -- A digit of a byte is that of its high or of its low half.
  simp only [List.mem_cons, List.not_mem_nil, or_false] at half
  rcases half with rfl | rfl
  · exact ⟨_, high_lt byte, rfl⟩
  · exact ⟨_, Nat.mod_lt _ (by decide), rfl⟩

/-- Each byte has two digits. -/
theorem length_encode (bytes : Bytes) : (encode bytes).length = 2 * bytes.length := by
  induction bytes with
  | nil => rfl
  | cons byte rest ih =>
    rw [encode_cons, List.length_cons, List.length_cons, ih, List.length_cons]
    omega

/-- The hexadecimal digits, with the letters of either case. -/
def digits : Text :=
  "0123456789abcdefABCDEF"

/-- A text has pairs if it is made of hexadecimal digits that pair up. -/
structure HasPairs (text : Text) : Prop where
  /-- No digit is left over. -/
  even : text.length % 2 = 0
  /-- There is nothing but digits. -/
  made : ∀ c ∈ text, c ∈ digits

/-- A code point has a value if it is a hexadecimal digit. -/
theorem exists_hexDigit?_iff {c : CodePoint} :
    (∃ value, hexDigit? c = some value) ↔ c ∈ digits := by
  constructor
  · rintro ⟨value, found⟩
    have ascii := toNat_lt_of_hexDigit? found
    -- So there are only the code points of ASCII to try.
    have each : ∀ code < 0x80, (hexDigit? (CodePoint.ofNat code)).isSome = true →
        CodePoint.ofNat code ∈ digits := by decide
    have some : (hexDigit? (CodePoint.ofNat c.toNat)).isSome = true := by
      rw [CodePoint.ofNat_toNat, found, Option.isSome_some]
    have member := each c.toNat ascii some
    rwa [CodePoint.ofNat_toNat] at member
  · intro member
    have each : ∀ c ∈ digits, (hexDigit? c).isSome = true := by decide
    exact Option.isSome_iff_exists.mp (each c member)

/-- Pairs of digits denote some bytes. -/
theorem exists_pairs? : ∀ {text : Text}, HasPairs text → ∃ bytes, pairs? text = some bytes
  | [], _ => ⟨[], rfl⟩
  | [lone], pairs => absurd pairs.even Nat.one_ne_zero
  | high :: low :: rest, pairs => by
    obtain ⟨highValue, isHigh⟩ := exists_hexDigit?_iff.mpr (pairs.made high (by simp))
    obtain ⟨lowValue, isLow⟩ := exists_hexDigit?_iff.mpr (pairs.made low (by simp))
    -- Without the first two, the digits pair up as before.
    have others : HasPairs rest := by
      refine ⟨?_, fun c member => pairs.made c (by simp [member])⟩
      have even := pairs.even
      rw [List.length_cons, List.length_cons] at even
      omega
    obtain ⟨more, isMore⟩ := exists_pairs? others
    exact ⟨_, pairs?_cons_eq_some_iff.mpr ⟨highValue, lowValue, more, isHigh, isLow, isMore, rfl⟩⟩

/-- A text has the digits of some bytes if it has pairs of digits. -/
theorem exists_encode_iff :
    (∃ bytes, text.map CodePoint.toLower = encode bytes) ↔ HasPairs text := by
  constructor
  · rintro ⟨bytes, same⟩
    refine ⟨?_, fun c member => ?_⟩
    · have lengths := congrArg List.length same
      rw [List.length_map, length_encode] at lengths
      omega
    · -- In small letters the character is a digit of the bytes.
      have lower : c.toLower ∈ encode bytes := same ▸ List.mem_map_of_mem member
      obtain ⟨value, small, isDigit⟩ := exists_of_mem_encode lower
      exact exists_hexDigit?_iff.mp ⟨value, hexDigit?_eq_some_iff.mpr ⟨small, isDigit⟩⟩
  · intro pairs
    obtain ⟨bytes, read⟩ := exists_pairs? pairs
    exact ⟨bytes, pairs?_eq_some_iff.mp read⟩

/-- A digit is given in one case or in the other. -/
def IsCaseOf (given small : CodePoint) : Prop :=
  given = small ∨ given = small.toUpper

/-- The digits of some bytes are told in any choice of cases. -/
theorem map_toLower_of_isCaseOf (either : List.Forall₂ IsCaseOf text (encode bytes)) :
    text.map CodePoint.toLower = encode bytes := by
  have each : ∀ value < 16,
      (CodePoint.char (hexDigit value)).toLower = .char (hexDigit value) ∧
        (CodePoint.char (hexDigit value)).toUpper.toLower = .char (hexDigit value) := by decide
  have known : ∀ small ∈ encode bytes, small.toLower = small ∧ small.toUpper.toLower = small := by
    intro small member
    obtain ⟨value, within, rfl⟩ := exists_of_mem_encode member
    exact each value within
  -- The digits are told one by one, so what they are the digits of is left aside.
  generalize encode bytes = smalls at either known
  induction either with
  | nil => rfl
  | cons first rest ih =>
    obtain ⟨same, raised⟩ := known _ List.mem_cons_self
    have lower := ih fun small member => known small (List.mem_cons_of_mem _ member)
    rcases first with rfl | rfl
    · rw [List.map_cons, same, lower]
    · rw [List.map_cons, raised, lower]

/-- A text denotes the bytes of which it has the digits, in letters of either case. -/
theorem decode_eq_ok_iff :
    decode text = .ok bytes ↔ text.map CodePoint.toLower = encode bytes := by
  constructor
  · intro found
    unfold decode at found
    split at found
    · cases found
    · split at found
      · cases found
      · -- Past the two checks only the pairs are left.
        split at found
        · rename_i read
          cases found
          exact pairs?_eq_some_iff.mp read
        · cases found
  · intro same
    have ascii : text.any (0x80 ≤ ·.toNat) = false := by
      rw [List.any_eq_false]
      intro c member
      -- In small letters the character is a digit, so it has a value.
      have lower : c.toLower ∈ encode bytes := same ▸ List.mem_map_of_mem member
      obtain ⟨value, small, isDigit⟩ := exists_of_mem_encode lower
      have within := toNat_lt_of_hexDigit? (hexDigit?_eq_some_iff.mpr ⟨small, isDigit⟩)
      simpa using within
    have even : ¬ text.length % 2 = 1 := by
      have lengths := congrArg List.length same
      rw [List.length_map, length_encode] at lengths
      omega
    simp [decode, ascii, even, pairs?_eq_some_iff.mpr same]

end Hex

end SolcRelease
