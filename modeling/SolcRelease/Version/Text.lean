import SolcRelease.Decimal.Natural
import SolcRelease.Text.Blank
import SolcRelease.Text.Quoted
import SolcRelease.Version.Basic

/-!
Versions as text. Reading takes the first three of the parts between dots and passes over the
rest; writing gives three parts without superfluous zeros.
-/

namespace SolcRelease

/-- Why a text is no version. -/
inductive VersionFlaw where
  /-- Fewer than two dots separate its parts. -/
  | missingParts
  /-- This one of the first three parts is not a row of digits. -/
  | badPart (part : Text)
  /-- What was given as a version is no text in the first place. -/
  | notText
  /-- Someone else found fault with it, in these words. -/
  | stated (reason : Text)
  deriving DecidableEq, Repr

/-- The wording of a flaw. -/
def VersionFlaw.reason : VersionFlaw → Text
  | .missingParts => "Expected major.minor.patch"
  | .badPart part => "Invalid version component " ++ part.quoted
  | .notText => "Version must be a string"
  | .stated reason => reason

namespace Version

/-- Why a text could not be read as a version. -/
inductive Unreadable where
  /-- It is no version. -/
  | malformed (flaw : VersionFlaw)
  /-- One of its numbers has too many digits. -/
  | tooManyDigits (excess : TooManyDigits)
  deriving DecidableEq, Repr

/-- Reads one part: a row of plain digits, leading zeros allowed. -/
def readPart (part : Text) : Except Unreadable Nat :=
  if part.isEmpty || !part.all CodePoint.isDigit then .error (.malformed (.badPart part))
  else
    match Decimal.read part with
    | .ok value => .ok value
    | .error excess => .error (.tooManyDigits excess)

/-- Reads a version, blanks around it left aside; the leftmost bad part decides the failure. -/
def read (text : Text) : Except Unreadable Version :=
  match text.strip.splitOn '.' with
  | major :: minor :: patch :: _ => do
    let major ← readPart major
    let minor ← readPart minor
    let patch ← readPart patch
    .ok ⟨major, minor, patch⟩
  | _ => .error (.malformed .missingParts)

/-- Writes a version, unless one of its numbers has too many digits. -/
def text (version : Version) : Except TooManyDigits Text := do
  let major ← Decimal.write version.major
  let minor ← Decimal.write version.minor
  let patch ← Decimal.write version.patch
  .ok (Text.joined "." [major, minor, patch])

end Version

end SolcRelease
