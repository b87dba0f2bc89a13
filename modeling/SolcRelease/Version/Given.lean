import SolcRelease.Failure

/-!
Versions from what callers give: a text, a JSON value, or three numbers.

A JSON value that is no string is shown in what is said about it, so it is taken to be one that can
be shown without running out of room.
-/

namespace SolcRelease

namespace Version

/-- The version that a text denotes. -/
def ofText (text : Text) : Except Failure Version :=
  match read text with
  | .ok version => .ok version
  | .error (.malformed flaw) => .error (.refusal (.invalidVersion text flaw))
  | .error (.tooManyDigits excess) => .error (.ofExcess excess)

/-- The text that a JSON value gives for a version, which only a string can do. -/
def givenText : Json → Except Failure Text
  | .string text => .ok text
  | value => do
    let shown ← Failure.ofWriting value.shown
    .error (.refusal (.invalidVersion shown .notText))

/-- The version that a JSON value denotes. -/
def ofJson (value : Json) : Except Failure Version := do
  let text ← givenText value
  ofText text

/-- One number of a version. -/
def givenPart (part : VersionPart) : Json → Except Failure Nat
  | .whole (.ofNat value) => .ok value
  | .whole value => do
    let shown ← Failure.ofWriting (Decimal.writeSigned value)
    .error (.fault (.partNegative part shown))
  | value => do
    let shown ← Failure.ofWriting value.shown
    .error (.fault (.partNotWhole part shown))

/-- The version with three given numbers, each of which must be whole and not negative. -/
def ofParts (major minor patch : Json) : Except Failure Version := do
  let major ← givenPart .major major
  let minor ← givenPart .minor minor
  let patch ← givenPart .patch patch
  .ok ⟨major, minor, patch⟩

end Version

end SolcRelease
