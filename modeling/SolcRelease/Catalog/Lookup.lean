import SolcRelease.Catalog.BuildName
import SolcRelease.Catalog.Fetch
import SolcRelease.Range.Offered
import SolcRelease.Version.Given

/-! What a release catalog tells about versions. -/

namespace SolcRelease

namespace Catalog

/-- The identifier of the build under the text of a version. -/
def identifierOf (catalog : Catalog) (text : Text) : Except Failure Text :=
  match catalog.build? text with
  | some build => .ok (BuildName.identifier build)
  | none => .error (.refusal (.releaseMissing text))

/-- The identifier of the build of a version text, which is checked before a catalog is sought. -/
def resolve (text : Text) (catalog : Option Catalog) : Activity Text := do
  let _ ← Activity.ofOutcome (Version.ofText text)
  let catalog ← orFetched catalog
  Activity.ofOutcome (catalog.identifierOf text)

/-- The identifier of the build of what is given as a version, which must be a text. -/
def resolveGiven (given : Json) (catalog : Option Catalog) : Activity Text := do
  let text ← Activity.ofOutcome (Version.givenText given)
  resolve text catalog

/-- The identifier of the build of a version in a freshly fetched catalog. -/
def resolveVersion (version : Version) : Activity Text := do
  let text ← Activity.ofWriting version.text
  resolve text none

/-- The latest release that a catalog names. -/
def latestVersion (catalog : Catalog) : Except Failure Version :=
  match Version.read catalog.latest with
  | .ok version => .ok version
  | .error (.malformed _) =>
    .error (.refusal (.catalogUnavailable (.latestUnusable catalog.latest) []))
  | .error (.tooManyDigits excess) => .error (.ofExcess excess)

/-- The latest release. -/
def latestRelease (catalog : Option Catalog) : Activity Version := do
  let catalog ← orFetched catalog
  Activity.ofOutcome catalog.latestVersion

/-- The versions of entries that have a build, in the order of the entries. -/
def versionsOf : Entries Text → Activity (List Version)
  | [] => pure []
  | (key, build) :: rest =>
    if build.isEmpty then versionsOf rest
    else
      match Version.read key with
      | .ok version => do
        let versions ← versionsOf rest
        return version :: versions
      | .error (.malformed _) => do
        Activity.log .catalog .debug ("skipping unparsable release key=" ++ key.quoted)
        versionsOf rest
      | .error (.tooManyDigits excess) => Activity.fail (.ofExcess excess)

/-- All released versions in ascending order. -/
def listReleases (catalog : Option Catalog) : Activity (List Version) := do
  let catalog ← orFetched catalog
  let versions ← versionsOf catalog.releases
  return Version.sorted versions

/-- Of a list of versions, those that the range offered holds. -/
def within (offered : Offered) : List Version → Except Failure (List Version)
  | [] => .ok []
  | version :: rest => do
    let held ← offered.contains version
    let versions ← within offered rest
    .ok (if held then version :: versions else versions)

/-- The released versions in the range offered, in ascending order. -/
def matchingReleases (offered : Offered) (catalog : Option Catalog) : Activity (List Version) := do
  let versions ← listReleases catalog
  Activity.ofOutcome (within offered versions)

end Catalog

end SolcRelease
