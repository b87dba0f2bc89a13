import SolcRelease.Decimal.Shortest
import SolcRelease.Json.Basic
import SolcRelease.Text.Quoted

/-!
How a JSON value is shown inside a message.

Showing takes up the stack like reading and writing, but no limit is kept here: the values that are
shown are taken to lie no deeper in each other than there is room for.
-/

namespace SolcRelease

namespace Json

/-- The word for the kind of a value. -/
def kindWord : Json → Text
  | .null => "NoneType"
  | .bool _ => "bool"
  | .whole _ => "int"
  | .real _ => "float"
  | .string _ => "str"
  | .array _ => "list"
  | .object _ => "dict"

mutual

/--
The text that shows a value, with strings quoted.

It fails where an integer in the value has too many digits to be written.
-/
def shown : Json → Except TooManyDigits Text
  | .null => .ok "None"
  | .bool value => .ok (if value then "True" else "False")
  | .whole value => Decimal.writeSigned value
  | .real value => .ok value.text
  | .string value => .ok value.quoted
  | .array items => do
    let parts ← shownItems items
    .ok ("[" ++ Text.joined ", " parts ++ "]")
  | .object members => do
    let parts ← shownMembers members
    .ok ("\x7b" ++ Text.joined ", " parts ++ "\x7d")

/-- The texts of the items of an array. -/
def shownItems : List Json → Except TooManyDigits (List Text)
  | [] => .ok []
  | item :: rest => do
    let part ← shown item
    let parts ← shownItems rest
    .ok (part :: parts)

/-- The texts of the members of an object. -/
def shownMembers : List (Text × Json) → Except TooManyDigits (List Text)
  | [] => .ok []
  | (key, value) :: rest => do
    let part ← shown value
    let parts ← shownMembers rest
    .ok ((key.quoted ++ ": " ++ part) :: parts)

end

/-- The text of a value by itself: a string is its own text, and any other value is shown. -/
def plain : Json → Except TooManyDigits Text
  | .string value => .ok value
  | value => value.shown

end Json

end SolcRelease
