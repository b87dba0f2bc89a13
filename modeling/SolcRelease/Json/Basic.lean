import SolcRelease.Decimal.Binary64
import SolcRelease.Entries

/-! JSON values, which keep the order of their members and tell integers from other numbers. -/

namespace SolcRelease

/-- A JSON value. -/
inductive Json where
  /-- The null value. -/
  | null
  /-- A truth value. -/
  | bool (value : Bool)
  /-- A number written without fraction and exponent. -/
  | whole (value : Int)
  /-- Any other number, infinities and the value that is no number included. -/
  | real (value : Binary64)
  /-- A string. -/
  | string (value : Text)
  /-- An array. -/
  | array (items : List Json)
  /-- An object. -/
  | object (members : List (Text × Json))
  deriving Inhabited

namespace Json

/-- A member of an object, with its name. -/
abbrev named (name : Text) (value : Json) : Text × Json :=
  (name, value)

/-- The value of a member, for a value that is an object and has that member. -/
def member? : Json → Text → Option Json
  | .object members, key => Entries.get? members key
  | _, _ => none

/-- Tells whether a value counts as none at all: null, false, zero, and whatever is empty. -/
def isVoid : Json → Bool
  | .null => true
  | .bool value => !value
  | .whole value => value == 0
  | .real value => value.isZero
  | .string value => value.isEmpty
  | .array items => items.isEmpty
  | .object members => members.isEmpty

end Json

end SolcRelease
