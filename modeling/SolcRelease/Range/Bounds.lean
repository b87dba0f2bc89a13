import SolcRelease.Failure
import SolcRelease.Range.Basic
import SolcRelease.Settings

/-! The configured bounds of the ranges that are inferred without a compiler version. -/

namespace SolcRelease

/-- A turning point in the history of metadata. -/
inductive Bound where
  /-- The first release that appended metadata to bytecode. -/
  | metadataFirst
  /-- The last release whose metadata does not name the compiler. -/
  | versionlessLast
  deriving DecidableEq, Repr

namespace Bound

/-- The setting that holds a bound. -/
def setting : Bound → Setting
  | .metadataFirst => .metadataFirst
  | .versionlessLast => .versionlessLast

/-- The text of a bound that is not configured. -/
def defaultText : Bound → Text
  | .metadataFirst => "0.4.7"
  | .versionlessLast => "0.5.8"

/-- The text of a bound under given settings. -/
def text (bound : Bound) (settings : Settings) : Text :=
  settings.getOr bound.setting bound.defaultText

/-- The version of a bound under given settings. -/
def version (bound : Bound) (settings : Settings) : Except Failure Version :=
  match Version.read (bound.text settings) with
  | .ok version => .ok version
  | .error (.malformed flaw) =>
    .error (.refusal (.misconfigured (.badBound bound.setting.name (bound.text settings) flaw)))
  | .error (.tooManyDigits excess) => .error (.ofExcess excess)

/-- The version given for a bound, or else the configured one. -/
def versionOr (bound : Bound) (settings : Settings) : Option Version → Except Failure Version
  | some version => .ok version
  | none => bound.version settings

end Bound

namespace VersionRange

/-- The range from a lower to an upper bound, each configured unless given. -/
def betweenBounds (settings : Settings) (lower upper : Option Version) :
    Except Failure VersionRange := do
  -- The lower bound is looked at first, so its failure counts if both fail.
  let lower ← Bound.metadataFirst.versionOr settings lower
  let upper ← Bound.versionlessLast.versionOr settings upper
  .ok (.between lower upper)

/-- The range below an upper bound, configured unless given. -/
def belowBound (settings : Settings) (upper : Option Version) : Except Failure VersionRange := do
  let upper ← Bound.metadataFirst.versionOr settings upper
  .ok (.below upper)

end VersionRange

end SolcRelease
