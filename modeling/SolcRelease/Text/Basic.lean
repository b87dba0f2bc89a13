import SolcRelease.Text.CodePoint

/-! Texts, the form in which everything that is read or written passes through the library. -/

namespace SolcRelease

/-- A text is the list of its code points, so its length counts them. -/
abbrev Text := List CodePoint

namespace Text

/-- The text of some characters. -/
def ofChars (chars : List Char) : Text :=
  chars.map .char

/-- The text of a string. -/
def ofString (string : String) : Text :=
  ofChars string.toList

instance : Coe String Text := ⟨ofString⟩

/-- The characters of a text, lone halves left out. -/
def chars (text : Text) : List Char :=
  text.filterMap CodePoint.char?

/-- The string of a text, with a stand-in for each lone half, which no string can hold. -/
def toString (text : Text) : String :=
  String.ofList (text.map fun c => c.char?.getD '\ufffd')

/-- Texts joined with a separator between neighbours. -/
def joined (separator : Text) (parts : List Text) : Text :=
  separator.intercalate parts

/-- The part of a text before the first place of a mark, which is all of it if there is none. -/
def upTo (mark : CodePoint) (text : Text) : Text :=
  text.takeWhile (· != mark)

/-- The part of a text from the first place of a mark on, which is empty if there is none. -/
def fromFirst (mark : CodePoint) (text : Text) : Text :=
  text.dropWhile (· != mark)

/-- The parts of a text between the places of a mark, one more than there are places. -/
abbrev splitOn (text : Text) (mark : CodePoint) : List Text :=
  List.splitOn mark text

/-- As many zeros as are asked for. -/
def zeros (count : Nat) : Text :=
  List.replicate count (.char '0')

/-- The characters of a text made of characters are those. -/
@[simp] theorem chars_ofChars (chars : List Char) : (ofChars chars).chars = chars := by
  induction chars with
  | nil => rfl
  | cons c rest ih =>
    simp only [ofChars, Text.chars, List.map_cons, List.filterMap_cons, CodePoint.char?] at ih ⊢
    rw [ih]

end Text

end SolcRelease
