import SolcRelease.Json.Basic
import SolcRelease.Json.Encoding
import SolcRelease.Text.Digit

/-!
JSON documents read into values.

Besides the standard's own values a document may hold the three special numbers by name. Of two
members with one name the later value counts, at the place of the earlier.
-/

namespace SolcRelease

namespace Json

/-- What is wrong at some place of a document. -/
inductive Problem where
  /-- No value begins here. -/
  | expectingValue
  /-- No member name begins here. -/
  | expectingName
  /-- No colon follows the member name. -/
  | expectingColon
  /-- Neither a comma nor the closing bracket follows. -/
  | expectingComma
  /-- The document goes on after its value. -/
  | extraData
  /-- The string that begins here has no end. -/
  | unterminatedString
  /-- A string holds a bare control character. -/
  | controlCharacter
  /-- A backslash is followed by no escape letter. -/
  | badEscape
  /-- A numeric escape does not have its four digits. -/
  | badUnicodeEscape
  /-- The document begins with a byte order mark. -/
  | byteOrderMark
  deriving DecidableEq, Repr

/-- The wording of a problem. -/
def Problem.message : Problem → Text
  | .expectingValue => "Expecting value"
  | .expectingName => "Expecting property name enclosed in double quotes"
  | .expectingColon => "Expecting ':' delimiter"
  | .expectingComma => "Expecting ',' delimiter"
  | .extraData => "Extra data"
  | .unterminatedString => "Unterminated string starting at"
  | .controlCharacter => "Invalid control character at"
  | .badEscape => "Invalid \\escape"
  | .badUnicodeEscape => "Invalid \\uXXXX escape"
  | .byteOrderMark => "Unexpected UTF-8 BOM (decode using utf-8-sig)"

/-- A value that encloses others. -/
inductive Enclosure where
  /-- An array. -/
  | array
  /-- An object. -/
  | object
  deriving DecidableEq, Repr

/-- The word for an enclosure. -/
def Enclosure.word : Enclosure → Text
  | .array => "array"
  | .object => "object"

/-- Why reading stopped; a place is given by the text from there on. -/
inductive Stop where
  /-- The document is malformed where the given rest begins. -/
  | malformed (problem : Problem) (rest : Text)
  /-- An integer has too many digits. -/
  | tooManyDigits (excess : TooManyDigits)
  /-- This enclosure lies too deep in others. -/
  | tooDeep (enclosure : Enclosure)

/-- Tells whether a character may stand between the tokens of a document. -/
def isGap (c : CodePoint) : Bool :=
  c == ' ' || c == '\t' || c == '\n' || c == '\r'

/-- The rest of a document without the gap at its start. -/
def skipGap (text : Text) : Text :=
  text.dropWhile isGap

/-- The value of four hexadecimal digits. -/
def hexUnit? (a b c d : CodePoint) : Option Nat :=
  match hexDigit? a, hexDigit? b, hexDigit? c, hexDigit? d with
  | some a, some b, some c, some d => some (((a * 16 + b) * 16 + c) * 16 + d)
  | _, _, _, _ => none

/-- The character that an escape letter stands for. -/
def escapedChar? : CodePoint → Option Char
  | .char '"' => some '"'
  | .char '\\' => some '\\'
  | .char '/' => some '/'
  | .char 'b' => some '\x08'
  | .char 'f' => some '\x0c'
  | .char 'n' => some '\n'
  | .char 'r' => some '\r'
  | .char 't' => some '\t'
  | _ => none

/--
Reads a string from after its opening quote, and gives the text after its closing one.

The text from the opening quote on is passed along, as the place of an unterminated string.
-/
def readString (opening : Text) : Text → Except Stop (Text × Text)
  | [] => .error (.malformed .unterminatedString opening)
  | .char '"' :: rest => .ok ([], rest)
  | [.char '\\'] => .error (.malformed .unterminatedString opening)
  | .char '\\' :: .char 'u' :: a :: b :: c :: d :: rest =>
    -- A document cannot end here, so the four digits must have a character after them.
    match hexUnit? a b c d, rest with
    | some high, .char '\\' :: .char 'u' :: e :: f :: g :: h :: after :: rest =>
      if 0xd800 ≤ high ∧ high ≤ 0xdbff then
        match hexUnit? e f g h with
        | none =>
          .error (.malformed .badUnicodeEscape ('u' :: e :: f :: g :: h :: after :: rest))
        | some low =>
          match CodePoint.paired? high low with
          | some code => do
            let (text, rest) ← readString opening (after :: rest)
            .ok (CodePoint.ofNat code :: text, rest)
          | none => do
            let (text, rest) ←
              readString opening ('\\' :: 'u' :: e :: f :: g :: h :: after :: rest)
            .ok (CodePoint.ofNat high :: text, rest)
      else do
        let (text, rest) ← readString opening ('\\' :: 'u' :: e :: f :: g :: h :: after :: rest)
        .ok (CodePoint.ofNat high :: text, rest)
    | some unit, next :: rest => do
      let (text, rest) ← readString opening (next :: rest)
      .ok (CodePoint.ofNat unit :: text, rest)
    | _, rest => .error (.malformed .badUnicodeEscape ('u' :: a :: b :: c :: d :: rest))
  | .char '\\' :: .char 'u' :: rest => .error (.malformed .badUnicodeEscape ('u' :: rest))
  | .char '\\' :: letter :: rest =>
    match escapedChar? letter with
    | some c => do
      let (text, rest) ← readString opening rest
      .ok (c :: text, rest)
    | none => .error (.malformed .badEscape ('\\' :: letter :: rest))
  | c :: rest =>
    if c.toNat ≤ 0x1f then .error (.malformed .controlCharacter (c :: rest))
    else do
      let (text, rest) ← readString opening rest
      .ok (c :: text, rest)

/-- The digits after a point, and the text after them; a point without digits is not taken. -/
def splitFraction : Text → Option Text × Text
  | .char '.' :: rest =>
    match rest.takeWhile CodePoint.isDigit with
    | [] => (none, '.' :: rest)
    | digits => (some digits, rest.dropWhile CodePoint.isDigit)
  | rest => (none, rest)

/-- The exponent of a number, and the text after it; a mark without digits is not taken. -/
def splitExponent (text : Text) : Option Int × Text :=
  match text with
  | mark :: rest =>
    let (negative, body) : Bool × Text :=
      match rest with
      | .char '-' :: body => (true, body)
      | .char '+' :: body => (false, body)
      | body => (false, body)
    match mark == 'e' || mark == 'E', body.takeWhile CodePoint.isDigit with
    | true, digit :: digits =>
      let size : Int := Decimal.value (digit :: digits)
      (some (if negative then -size else size), body.dropWhile CodePoint.isDigit)
    | _, _ => (none, text)
  | [] => (none, [])

/-- The digits before a point, where a zero stands alone, and the text after them. -/
def splitWhole : Text → Option (Text × Text)
  | .char '0' :: rest => some ("0", rest)
  | c :: rest =>
    if c.isDigit then some (c :: rest.takeWhile CodePoint.isDigit, rest.dropWhile CodePoint.isDigit)
    else none
  | [] => none

/-- Reads a number, whose integers may be held to the limit on digits. -/
def readNumber (limited : Bool) (text : Text) : Except Stop (Json × Text) :=
  let (negative, body) : Bool × Text :=
    match text with
    | .char '-' :: body => (true, body)
    | body => (false, body)
  match splitWhole body with
  | none => .error (.malformed .expectingValue text)
  | some (digits, rest) =>
    match splitFraction rest with
    | (fraction, rest) =>
      match fraction, splitExponent rest with
      | none, (none, rest) =>
        match if limited then Decimal.read digits else .ok (Decimal.value digits) with
        | .error excess => .error (.tooManyDigits excess)
        | .ok size => .ok (.whole (if negative then -size else size), rest)
      | fraction, (exponent, rest) =>
        let places := fraction.getD []
        let decimal : ExactDecimal :=
          ⟨negative, Decimal.value (digits ++ places), exponent.getD 0 - places.length⟩
        .ok (.real (Binary64.ofDecimal decimal), rest)

/-- The values that have a word of their own. -/
def words : List (Text × Json) :=
  [("null", .null), ("true", .bool true), ("false", .bool false), ("NaN", .real .nan),
    ("Infinity", .real (.infinite false)), ("-Infinity", .real (.infinite true))]

/-- Reads a word at the very start of a text, if one stands there. -/
def readWord? (text : Text) : Option (Json × Text) :=
  (words.find? fun (word, _) => word.isPrefixOf text).map fun (word, value) =>
    (value, text.drop word.length)

mutual

/--
Reads a value at the very start of a text.

The fuel bounds the steps, and the room tells how many more enclosures may be opened.
-/
def readValue (limited : Bool) : Nat → Nat → Text → Except Stop (Json × Text)
  | 0, _, text => .error (.malformed .expectingValue text)
  | fuel + 1, room, text =>
    match text with
    | .char '"' :: rest => do
      let (value, rest) ← readString text rest
      .ok (.string value, rest)
    | .char '{' :: rest =>
      match room, skipGap rest with
      | 0, _ => .error (.tooDeep .object)
      | _ + 1, .char '}' :: rest => .ok (.object [], rest)
      | room + 1, rest => do
        let (members, rest) ← readMembers limited fuel room rest
        .ok (.object (Entries.ofPairs members), rest)
    | .char '[' :: rest =>
      match room, skipGap rest with
      | 0, _ => .error (.tooDeep .array)
      | _ + 1, .char ']' :: rest => .ok (.array [], rest)
      | room + 1, rest => do
        let (items, rest) ← readItems limited fuel room rest
        .ok (.array items, rest)
    | text =>
      match readWord? text with
      | some (value, rest) => .ok (value, rest)
      | none => readNumber limited text

/-- Reads the members of an object up to its closing brace. -/
def readMembers (limited : Bool) : Nat → Nat → Text → Except Stop (List (Text × Json) × Text)
  | 0, _, text => .error (.malformed .expectingName text)
  | fuel + 1, room, text =>
    match text with
    | .char '"' :: rest => do
      let (key, rest) ← readString text rest
      match skipGap rest with
      | .char ':' :: rest => do
        let (value, rest) ← readValue limited fuel room (skipGap rest)
        match skipGap rest with
        | .char '}' :: rest => .ok ([(key, value)], rest)
        | .char ',' :: rest => do
          let (members, rest) ← readMembers limited fuel room (skipGap rest)
          .ok ((key, value) :: members, rest)
        | rest => .error (.malformed .expectingComma rest)
      | rest => .error (.malformed .expectingColon rest)
    | text => .error (.malformed .expectingName text)

/-- Reads the items of an array up to its closing bracket. -/
def readItems (limited : Bool) : Nat → Nat → Text → Except Stop (List Json × Text)
  | 0, _, text => .error (.malformed .expectingValue text)
  | fuel + 1, room, text => do
    let (item, rest) ← readValue limited fuel room text
    match skipGap rest with
    | .char ']' :: rest => .ok ([item], rest)
    | .char ',' :: rest => do
      let (items, rest) ← readItems limited fuel room (skipGap rest)
      .ok (item :: items, rest)
    | rest => .error (.malformed .expectingComma rest)

end

/-- A place in a document. -/
structure Place where
  /-- The line, from one. -/
  line : Nat
  /-- The column in its line, from one. -/
  column : Nat
  /-- How many characters stand before it in the document. -/
  offset : Nat
  deriving DecidableEq, Repr

/-- The place where a given end of a document begins. -/
def placeOf (document rest : Text) : Place :=
  let before := document.take (document.length - rest.length)
  { line := before.count (.char '\n') + 1
    column := (Text.upTo '\n' before.reverse).length + 1
    offset := before.length }

/-- Why a document cannot be read. -/
inductive ReadFailure where
  /-- The document is malformed at a place. -/
  | malformed (problem : Problem) (place : Place)
  /-- An integer has too many digits. -/
  | tooManyDigits (excess : TooManyDigits)
  /-- An enclosure lies too deep in others. -/
  | tooDeep (enclosure : Enclosure)
  deriving DecidableEq, Repr

/-- The wording of a failure. -/
def ReadFailure.message : ReadFailure → Text
  | .malformed problem place =>
    problem.message ++ ": line " ++ Decimal.digits place.line
      ++ " column " ++ Decimal.digits place.column
      ++ " (char " ++ Decimal.digits place.offset ++ ")"
  | .tooManyDigits excess => excess.message
  | .tooDeep enclosure =>
    "maximum recursion depth exceeded while decoding a JSON " ++ enclosure.word
      ++ " from a unicode string"

/--
Reads a document that may begin with any character.

Its integers may be held to the limit on digits, and the nesting tells how many of its enclosures
may lie in each other.
-/
def readDocument (limited : Bool) (nesting : Nat) (document : Text) : Except ReadFailure Json :=
  -- No character takes more than two steps.
  let fuel := 2 * document.length + 2
  let outcome : Except Stop Json :=
    match readValue limited fuel nesting (skipGap document) with
    | .error stop => .error stop
    | .ok (value, rest) =>
      match skipGap rest with
      | [] => .ok value
      | rest => .error (.malformed .extraData rest)
  match outcome with
  | .ok value => .ok value
  | .error (.malformed problem rest) => .error (.malformed problem (placeOf document rest))
  | .error (.tooManyDigits excess) => .error (.tooManyDigits excess)
  | .error (.tooDeep enclosure) => .error (.tooDeep enclosure)

/-- Reads a document, which must not begin with a byte order mark. -/
def read (nesting : Nat) (document : Text) : Except ReadFailure Json :=
  match document with
  | .char '\ufeff' :: _ => .error (.malformed .byteOrderMark (placeOf document document))
  | _ => readDocument true nesting document

/-- Reads a document in bytes, whatever encoding they are in, unless they are in none. -/
def readBytes? (nesting : Nat) (bytes : Bytes) : Option (Except ReadFailure Json) :=
  (Encoding.documentText? bytes).map (readDocument true nesting)

end Json

end SolcRelease
