import SolcRelease.Catalog.Basic
import SolcRelease.Proofs.Entries
import SolcRelease.Proofs.Outcome

/-! What a document gives to its catalog: a release for each member, and the latest of them. -/

namespace SolcRelease

namespace Catalog

/-- The members of a document that stand for releases; none, unless they are those of an object. -/
def releaseMembers (members : Entries Json) : Entries Json :=
  match members.get? "releases" with
  | some (.object releases) => releases
  | _ => []

/-- The text that a document has for the latest release, empty where it has nothing of the kind. -/
def latestText (members : Entries Json) : Except TooManyDigits Text :=
  match members.get? "latestRelease" with
  | none => .ok []
  | some value => if value.isVoid then .ok [] else value.plain

/-- The release that a member stands for, unless it is null. -/
def released? (member : Text × Json) : Option (Text × Text) :=
  match member.2 with
  | .null => none
  | value => value.plain.toOption.map fun build => (member.1, build)

variable {members : Entries Json} {releases : Entries Text} {catalog : Catalog}

/-- A catalog has its releases from one member of the document and the latest from another. -/
theorem ofMembers_eq (members : Entries Json) :
    ofMembers members = (do
      let releases ← releasesOf (releaseMembers members)
      let latest ← latestText members
      .ok ⟨releases, latest⟩) := by
  simp only [ofMembers, releaseMembers, latestText]
  generalize members.get? "releases" = found
  cases members.get? "latestRelease" with
  | none =>
    -- Whatever is no object has no members, and so no releases.
    rcases found with - | value
    · rfl
    · cases value <;> rfl
  | some latest =>
    dsimp only
    cases latest.isVoid
    all_goals
      rcases found with - | value
      · rfl
      · cases value <;> rfl

/-- The releases that are collected are those of the members, in the order of the document. -/
theorem eq_filterMap_of_releasesOf (found : releasesOf members = .ok releases) :
    releases = members.filterMap released? := by
  induction members using releasesOf.induct generalizing releases with
  | case1 =>
    cases found
    rfl
  | case2 key rest ih =>
    -- A null is no release.
    rw [releasesOf] at found
    exact ih found
  | case3 key value rest notNull ih =>
    simp only [releasesOf, Outcome.bind_eq_ok_iff, Except.ok.injEq] at found
    obtain ⟨build, plain, others, more, rfl⟩ := found
    have first : released? (key, value) = some (key, build) := by
      simp [released?, plain, Except.toOption]
    rw [List.filterMap_cons_some first, ← ih more]

/-- A release has the key of the member that stands for it. -/
theorem key_of_released? {member : Text × Json} {release : Text × Text}
    (found : released? member = some release) : release.1 = member.1 := by
  unfold released? at found
  split at found
  · -- A null stands for none.
    cases found
  · obtain ⟨build, -, rfl⟩ := Option.map_eq_some_iff.mp found
    rfl

/-- The releases of members with distinct keys are distinct. -/
theorem distinct_filterMap_released? (distinct : members.Distinct) :
    Entries.Distinct (members.filterMap released?) := by
  have apart : members.Pairwise fun first second => first.1 ≠ second.1 :=
    List.pairwise_map.mp distinct
  rw [Entries.Distinct, List.Nodup, List.pairwise_map, List.pairwise_filterMap]
  -- Each release keeps the key of its member.
  refine apart.imp fun different release isFirst other isSecond => ?_
  rw [key_of_released? isFirst, key_of_released? isSecond]
  exact different

end Catalog

end SolcRelease
