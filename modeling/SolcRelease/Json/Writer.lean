import SolcRelease.Decimal.Shortest
import SolcRelease.Json.Basic
import SolcRelease.Text.Digit

/-! JSON values written as documents of plain ASCII. -/

namespace SolcRelease

namespace Json

/-- One unit of an escaped character. -/
def writtenUnit (unit : Nat) : Text :=
  "\\u" ++ hexText 4 unit

/-- One code point of a string. -/
def writtenCodePoint (c : CodePoint) : Text :=
  if c == '"' || c == '\\' then ['\\', c]
  else if c == '\n' then "\\n"
  else if c == '\r' then "\\r"
  else if c == '\t' then "\\t"
  else if c.toNat == 0x08 then "\\b"
  else if c.toNat == 0x0c then "\\f"
  else if 0x20 ≤ c.toNat && c.toNat ≤ 0x7e then [c]
  else if c.toNat ≤ 0xffff then writtenUnit c.toNat
  else
    -- A character beyond the first plane takes the two halves of a surrogate pair.
    let offset := c.toNat - 0x10000
    writtenUnit (0xd800 + offset / 0x400) ++ writtenUnit (0xdc00 + offset % 0x400)

/-- A string with its quotes. -/
def writtenText (text : Text) : Text :=
  "\"" ++ text.flatMap writtenCodePoint ++ "\""

/-- A number of the binary format, whose special values have names. -/
def writtenReal : Binary64 → Text
  | .nan => "NaN"
  | .infinite negative => if negative then "-Infinity" else "Infinity"
  | value => value.text

mutual

/-- The document of a value, without blanks. -/
def written : Json → Text
  | .null => "null"
  | .bool value => if value then "true" else "false"
  | .whole value => Decimal.signed value
  | .real value => writtenReal value
  | .string value => writtenText value
  | .array items => "[" ++ Text.joined "," (writtenItems items) ++ "]"
  | .object members => "\x7b" ++ Text.joined "," (writtenMembers members) ++ "\x7d"

/-- The documents of the items of an array. -/
def writtenItems : List Json → List Text
  | [] => []
  | item :: rest => written item :: writtenItems rest

/-- The members of an object, each a name and a document. -/
def writtenMembers : List (Text × Json) → List Text
  | [] => []
  | (key, value) :: rest =>
    (writtenText key ++ ":" ++ written value) :: writtenMembers rest

end

/-- What keeps a value from being written. -/
inductive WriteFailure where
  /-- An integer has too many digits. -/
  | tooManyDigits
  /-- An enclosure lies too deep in others. -/
  | tooDeep
  deriving DecidableEq, Repr

/-- Tells whether one name comes before another. -/
def precedes (name other : Text) : Bool :=
  (name.map CodePoint.toNat).lex (other.map CodePoint.toNat) fun a b => decide (a < b)

/-- The failure under the first of some names: members are written in the order of their names. -/
def firstByName : List (Text × WriteFailure) → Option (Text × WriteFailure)
  | [] => none
  | failure :: rest =>
    match firstByName rest with
    | none => some failure
    | some other => some (if precedes other.1 failure.1 then other else failure)

mutual

/--
What keeps a value from being written, if anything does.

The room tells how many enclosures there may be, each of which takes a part of it even when empty.
-/
def unwritable? : Nat → Json → Option WriteFailure
  | _, .whole value =>
    if (Decimal.digits value.natAbs).length ≤ digitLimit then none else some .tooManyDigits
  | 0, .array _ | 0, .object _ => some .tooDeep
  | room + 1, .array items => unwritableItem? room items
  | room + 1, .object members => (firstByName (unwritableMembers room members)).map Prod.snd
  | _, .null | _, .bool _ | _, .real _ | _, .string _ => none

/-- What keeps the items of an array from being written, if anything. -/
def unwritableItem? : Nat → List Json → Option WriteFailure
  | _, [] => none
  | room, item :: rest => (unwritable? room item).or (unwritableItem? room rest)

/-- What keeps members from being written, each under the name of the member. -/
def unwritableMembers : Nat → List (Text × Json) → List (Text × WriteFailure)
  | _, [] => []
  | room, (key, value) :: rest =>
    ((unwritable? room value).map fun failure => (key, failure)).toList
      ++ unwritableMembers room rest

end

end Json

end SolcRelease
