import SolcRelease.Version.Text

/-! Ranges of versions: which compilers may have produced a bytecode. -/

namespace SolcRelease

/-- What the metadata of a bytecode told about its compiler. -/
inductive InferralKind where
  /-- The metadata names the compiler version. -/
  | exact
  /-- There is metadata, without a compiler version. -/
  | metadataPresentVersionAbsent
  /-- There is no metadata. -/
  | metadataAbsent
  deriving DecidableEq, Repr

namespace InferralKind

/-- The word for a kind. -/
def word : InferralKind → Text
  | .exact => "exact"
  | .metadataPresentVersionAbsent => "metadata_present_version_absent"
  | .metadataAbsent => "metadata_absent"

/-- The name of a kind, in capitals. -/
def name : InferralKind → Text
  | .exact => "EXACT"
  | .metadataPresentVersionAbsent => "METADATA_PRESENT_VERSION_ABSENT"
  | .metadataAbsent => "METADATA_ABSENT"

end InferralKind

/-- A range of versions, one form to each kind of inferral. -/
inductive VersionRange where
  /-- This version alone. -/
  | exact (version : Version)
  /-- The versions from a lower to an upper bound, both included. -/
  | between (lower upper : Version)
  /-- The versions below an upper bound. -/
  | below (upper : Version)
  deriving DecidableEq, Repr

/-- One row of numbers precedes another at the first difference, or by ending first. -/
def precedes : List Nat → List Nat → Bool
  | _, [] => false
  | [], _ :: _ => true
  | a :: as, b :: bs => decide (a < b) || (a == b && precedes as bs)

namespace VersionRange

/-- The kind of inferral that yields ranges of this form. -/
def kind : VersionRange → InferralKind
  | .exact _ => .exact
  | .between _ _ => .metadataPresentVersionAbsent
  | .below _ => .metadataAbsent

/-- Tells whether a range holds a version, by the rows of their numbers. -/
def contains : VersionRange → Version → Bool
  | .exact version, candidate => candidate.parts == version.parts
  | .between lower upper, candidate =>
    !precedes candidate.parts lower.parts && !precedes upper.parts candidate.parts
  | .below upper, candidate => precedes candidate.parts upper.parts

/-- The constraint that stands for a range, unless a number in it has too many digits. -/
def text : VersionRange → Except TooManyDigits Text
  | .exact version => version.text
  | .between lower upper => do
    let lower ← lower.text
    let upper ← upper.text
    .ok (">=" ++ lower ++ " <=" ++ upper)
  | .below upper => do
    let upper ← upper.text
    .ok ("<" ++ upper)

end VersionRange

end SolcRelease
