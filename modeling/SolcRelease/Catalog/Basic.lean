import SolcRelease.Failure

/-!
The release catalog: which build belongs to which version, and which release is the latest.

What stands for a text in its document is shown where it is none, so it is taken to be a value that
can be shown without running out of room, as is every value of a document that could be read.
-/

namespace SolcRelease

/-- A release catalog. -/
structure Catalog where
  /-- The name of each release's build, under the text of its version. -/
  releases : Entries Text
  /-- The text of the latest version, empty if the catalog names none. -/
  latest : Text
  deriving DecidableEq, Repr

namespace Catalog

/-- The releases in a member of a catalog document; a null stands for no build. -/
def releasesOf : List (Text × Json) → Except TooManyDigits (Entries Text)
  | [] => .ok []
  | (_, .null) :: rest => releasesOf rest
  | (key, value) :: rest => do
    let build ← value.plain
    let releases ← releasesOf rest
    .ok ((key, build) :: releases)

/-- The catalog in the members of a document; those of the wrong kind count as missing. -/
def ofMembers (members : Entries Json) : Except TooManyDigits Catalog := do
  let releases ←
    match Entries.get? members "releases" with
    | some (.object releases) => releasesOf releases
    | _ => .ok []
  let latest ←
    match Entries.get? members "latestRelease" with
    | none => .ok []
    | some value => if value.isVoid then .ok [] else value.plain
  .ok ⟨releases, latest⟩

/-- The catalog in a document, which must be an object. -/
def ofJson : Json → Except Failure Catalog
  | .object members => Failure.ofWriting (ofMembers members)
  | value => .error (.fault (.notACatalog value.kindWord))

/-- The document of a catalog. -/
def toJson (catalog : Catalog) : Json :=
  .object
    [("releases", .object (catalog.releases.map fun (key, build) => (key, .string build))),
      ("latestRelease", .string catalog.latest)]

/-- The build of a version text that is not empty. -/
def build? (catalog : Catalog) (text : Text) : Option Text :=
  (Entries.get? catalog.releases text).filter (!·.isEmpty)

/-- The catalog after some builds are put in and then some taken out. -/
def edit (catalog : Catalog) (added : List (Text × Text)) (removed : List Text)
    (latest : Option Text) : Catalog :=
  let releases := added.foldl (fun entries (key, build) => Entries.put key build entries)
    catalog.releases
  { releases := removed.foldl (fun entries key => Entries.erase key entries) releases
    latest := latest.getD catalog.latest }

end Catalog

end SolcRelease
