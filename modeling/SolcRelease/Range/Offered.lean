import SolcRelease.Failure
import SolcRelease.Range.Basic

/-! What callers offer as a range, which need not be one. -/

namespace SolcRelease

/-- Something offered as a range of versions. -/
inductive Offered where
  /-- A range. -/
  | range (given : VersionRange)
  /-- A JSON value in its place. -/
  | other (value : Json)

namespace Offered

/-- The range that is offered, if it is one. -/
def toRange : Offered → Except Failure VersionRange
  | .range given => .ok given
  | .other value => do
    let shown ← Failure.ofWriting value.shown
    .error (.fault (.notARange shown))

/-- Tells whether the range offered holds a version. -/
def contains (offered : Offered) (version : Version) : Except Failure Bool := do
  let range ← offered.toRange
  .ok (range.contains version)

/-- The constraint that stands for the range offered. -/
def text (offered : Offered) : Except Failure Text := do
  let range ← offered.toRange
  Failure.ofWriting range.text

end Offered

end SolcRelease
