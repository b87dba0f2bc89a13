import SolcRelease.Text.Utf8

/-! Texts of ASCII in UTF-8: each character is one byte, and is read back from it. -/

namespace SolcRelease

namespace Utf8

/-- A text is of ASCII if every code point of it has a number below 128. -/
def IsAscii (text : Text) : Prop :=
  ∀ c ∈ text, c.toNat < 0x80

variable {text : Text} {c : CodePoint}

/-- A code point of ASCII is a character. -/
theorem exists_char (small : c.toNat < 0x80) : ∃ char : Char, c = .char char := by
  cases c with
  | char char => exact ⟨char, rfl⟩
  | half place =>
    -- The halves come after all of ASCII.
    simp only [CodePoint.toNat] at small
    omega

/-- Collecting the bytes of an array from a place on puts them behind those there are. -/
theorem toList_loop (bytes : ByteArray) (place : Nat) (before : List UInt8) :
    ByteArray.toList.loop bytes place before = before.reverse ++ bytes.data.toList.drop place := by
  -- The cases are those of the collection: one more byte, or the end of the array.
  fun_induction ByteArray.toList.loop bytes place before with
  | case1 place before inside ih =>
    have within : place < bytes.data.toList.length := by simpa using inside
    rw [ih, List.drop_eq_getElem_cons within]
    simp [ByteArray.get!, inside]
  | case2 place before outside =>
    rw [List.drop_eq_nil_of_le (by simpa using Nat.le_of_not_lt outside), List.append_nil]

/-- The bytes of a text are those of its characters, one after another. -/
theorem encode_eq_flatMap (text : Text) :
    encode text = text.flatMap fun c => String.utf8EncodeChar (c.char?.getD '\ufffd') := by
  rw [encode, Text.toString, String.toUTF8_eq_toByteArray, String.toByteArray_ofList,
    ByteArray.toList, toList_loop, List.utf8Encode, List.toList_data_toByteArray, List.flatMap_map]
  rfl

/-- Every character of ASCII is one byte, its number. -/
theorem encode_of_isAscii (ascii : IsAscii text) :
    encode text = text.map fun c => UInt8.ofNat c.toNat := by
  rw [encode_eq_flatMap]
  induction text with
  | nil => rfl
  | cons c rest ih =>
    have small := ascii c List.mem_cons_self
    rw [List.flatMap_cons, List.map_cons, ih fun other member =>
      ascii other (List.mem_cons_of_mem _ member)]
    obtain ⟨char, rfl⟩ := exists_char small
    -- Of the four forms that a character may take, the shortest one holds all of ASCII.
    have single : String.utf8EncodeChar char = [UInt8.ofNat char.toNat] := by
      simp only [CodePoint.toNat, Char.toNat] at small
      simp only [String.utf8EncodeChar, Char.toNat]
      rw [if_pos (by omega)]
    exact congrArg (· ++ _) single

/-- Bytes of ASCII are read as the characters with their numbers. -/
theorem decodeFrom_of_isAscii (ascii : IsAscii text) :
    decodeFrom none (text.map fun c => UInt8.ofNat c.toNat) = text := by
  induction text with
  | nil => rfl
  | cons c rest ih =>
    obtain ⟨char, rfl⟩ := exists_char (ascii c List.mem_cons_self)
    have small : char.toNat < 0x80 := ascii _ List.mem_cons_self
    -- The byte is a character of its own, and leaves nothing pending for the next one.
    have first : start (UInt8.ofNat char.toNat).toNat = ([.char char], none) := by
      have number : (UInt8.ofNat char.toNat).toNat = char.toNat := by
        rw [UInt8.toNat_ofNat']
        omega
      rw [number, start, if_pos small, Char.ofNat_toNat]
    rw [List.map_cons, decodeFrom]
    change (start (UInt8.ofNat char.toNat).toNat).1 ++
      decodeFrom (start (UInt8.ofNat char.toNat).toNat).2 _ = _
    rw [first, List.singleton_append, ih fun other member =>
      ascii other (List.mem_cons_of_mem _ member)]

/-- A text of ASCII is read back from its bytes. -/
theorem decodeLenient_encode (ascii : IsAscii text) : decodeLenient (encode text) = text := by
  rw [encode_of_isAscii ascii, decodeLenient, decodeFrom_of_isAscii ascii]

end Utf8

end SolcRelease
