import SolcRelease.Proofs.Catalog.Document
import SolcRelease.Proofs.Catalog.Listing
import SolcRelease.Proofs.Catalog.Lookup

/-! Catalogs that differ in the order of their releases alone: they tell the same about versions. -/

namespace SolcRelease

namespace Catalog

/-- Two documents are the same but for the order of their releases. -/
structure Reordered (first second : Entries Json) : Prop where
  /-- No key stands for two releases. -/
  distinct : (releaseMembers first).Distinct
  /-- The releases of either are those of the other, in some order. -/
  releases : (releaseMembers first).Perm (releaseMembers second)
  /-- The latest release is the same. -/
  latest : first.get? "latestRelease" = second.get? "latestRelease"

/-- Two catalogs are the same but for the order of their entries. -/
structure HasSameEntries (first second : Catalog) : Prop where
  /-- No key has two builds. -/
  distinct : first.releases.Distinct
  /-- The entries of either are those of the other, in some order. -/
  releases : first.releases.Perm second.releases
  /-- The latest release is the same. -/
  latest : first.latest = second.latest

/-- Two catalogs tell the same about versions, save that both may have numbers that are too long. -/
structure Agree (first second : Catalog) : Prop where
  /-- They list the same releases. -/
  listed : ∀ world journal elsewhere later,
    Outcome.Alike ((listReleases (some first)).outcome world journal)
      ((listReleases (some second)).outcome elsewhere later)
  /-- They have the same releases in every range. -/
  matching : ∀ range world journal elsewhere later,
    Outcome.Alike ((matchingReleases (.range range) (some first)).outcome world journal)
      ((matchingReleases (.range range) (some second)).outcome elsewhere later)
  /-- They have the same latest release. -/
  latest : ∀ world journal elsewhere later,
    (latestRelease (some first)).outcome world journal =
      (latestRelease (some second)).outcome elsewhere later
  /-- Every text resolves to the same identifier in both, or for the same reason to none. -/
  resolved : ∀ text world journal elsewhere later,
    (resolve text (some first)).outcome world journal =
      (resolve text (some second)).outcome elsewhere later

variable {firstMembers secondMembers : Entries Json} {first second : Catalog}

/-- The catalogs of reordered documents have the same entries. -/
theorem hasSameEntries_of_reordered (reordered : Reordered firstMembers secondMembers)
    (isFirst : ofMembers firstMembers = .ok first)
    (isSecond : ofMembers secondMembers = .ok second) : HasSameEntries first second := by
  simp only [ofMembers_eq, Outcome.bind_eq_ok_iff, Except.ok.injEq] at isFirst isSecond
  obtain ⟨releases, collected, latest, text, rfl⟩ := isFirst
  obtain ⟨others, alsoCollected, alsoLatest, alsoText, rfl⟩ := isSecond
  -- The releases are taken from the members one by one, so they are reordered with them.
  obtain rfl := eq_filterMap_of_releasesOf collected
  obtain rfl := eq_filterMap_of_releasesOf alsoCollected
  refine ⟨distinct_filterMap_released? reordered.distinct, reordered.releases.filterMap _, ?_⟩
  have same : latestText firstMembers = latestText secondMembers := by
    rw [latestText, latestText, reordered.latest]
  rw [same, alsoText] at text
  exact (Except.ok.inj text).symm

/-- Reordered entries have an excess among them in either order or in none. -/
theorem firstExcess?_eq_none_iff_of_perm {entries others : Entries Text}
    (same : entries.Perm others) : firstExcess? entries = none ↔ firstExcess? others = none := by
  simp only [firstExcess?, List.findSome?_eq_none_iff]
  exact forall_congr' fun entry => by rw [same.mem_iff]

/-- In either order the entries give one ascending list of versions, unless some are too long. -/
theorem alike_ascending (same : HasSameEntries first second) :
    Outcome.Alike (listing first.releases >>= fun versions => .ok (Version.sorted versions))
      (listing second.releases >>= fun versions => .ok (Version.sorted versions)) := by
  have excess := firstExcess?_eq_none_iff_of_perm same.releases
  unfold listing
  cases isFirst : firstExcess? first.releases with
  | none =>
    rw [excess.mp isFirst]
    -- Sorting leaves nothing of the order in which the versions were found.
    exact .of_eq (congrArg Except.ok (Version.sorted_eq_of_perm (same.releases.filterMap _)))
  | some one =>
    cases isSecond : firstExcess? second.releases with
    | none =>
      rw [excess.mpr isSecond] at isFirst
      cases isFirst
    | some other => exact Or.inr ⟨one, other, rfl, rfl⟩

/-- Under every key there is the same identifier. -/
theorem identifierOf_congr (same : HasSameEntries first second) (text : Text) :
    first.identifierOf text = second.identifierOf text := by
  rw [identifierOf, identifierOf, build?, build?,
    Entries.get?_eq_of_perm same.distinct same.releases]

/-- The latest release is the same version, or fails to be one for the same reason. -/
theorem latestVersion_congr (same : HasSameEntries first second) :
    first.latestVersion = second.latestVersion := by
  rw [latestVersion, latestVersion, same.latest]

/-- Every text resolves to the same. -/
theorem resolution_congr (same : HasSameEntries first second) (text : Text) :
    first.resolution text = second.resolution text := by
  rw [resolution, resolution, identifierOf_congr same]

/-- Catalogs with the same entries agree. -/
theorem agree_of_hasSameEntries (same : HasSameEntries first second) : Agree first second where
  listed := by
    intro world journal elsewhere later
    simp only [outcome_listReleases, outcome_orFetched_some, Outcome.ok_bind]
    exact alike_ascending same
  matching := by
    intro range world journal elsewhere later
    -- The range is applied to the list, once that is in order.
    have filtered := (alike_ascending same).then fun versions =>
      .ok (versions.filter range.contains)
    simpa only [bind_assoc, Outcome.ok_bind, outcome_matchingReleases, outcome_orFetched_some]
      using filtered
  latest := by
    intro world journal elsewhere later
    simp only [latestRelease, Activity.outcome_bind, outcome_orFetched_some, Outcome.ok_bind,
      Activity.outcome_ofOutcome]
    exact latestVersion_congr same
  resolved := by
    intro text world journal elsewhere later
    rw [outcome_resolve, outcome_resolve]
    exact resolution_congr same text

end Catalog

end SolcRelease
