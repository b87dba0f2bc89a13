import SolcRelease.Proofs.Catalog.Listing
import SolcRelease.Proofs.Range.Membership

/-! The releases in a range stand together in the release list, in one block without gaps. -/

namespace SolcRelease

namespace Catalog

/-- The versions of a list that a range holds are a block with the others below and above it. -/
structure IsBlock (range : VersionRange) (versions before block after : List Version) : Prop where
  /-- The list is made of the block and what stands on either side. -/
  whole : versions = before ++ block ++ after
  /-- The range holds the versions of the block. -/
  held : ∀ version ∈ block, range.contains version = true
  /-- It holds no other version of the list. -/
  others : ∀ version ∈ before ++ after, range.contains version = false
  /-- What stands in front of the block is below all of it. -/
  below : ∀ earlier ∈ before, ∀ version ∈ block, earlier < version
  /-- What stands behind the block is above all of it. -/
  above : ∀ later ∈ after, ∀ version ∈ block, version < later

variable {versions : List Version}

/-- Of ascending versions, those that a range holds are a block. -/
theorem exists_isBlock (range : VersionRange) (ascending : versions.Pairwise (· ≤ ·)) :
    ∃ before after,
      IsBlock range versions before (versions.filter range.contains) after := by
  obtain ⟨before, after, whole, others⟩ := Version.exists_append_filter_append ascending
    fun _ _ _ => VersionRange.contains_of_le_of_le
  have held : ∀ version ∈ versions.filter range.contains, range.contains version = true :=
    fun version member => (List.mem_filter.mp member).2
  -- A version of the block differs from all others, since the range tells them apart.
  have differ {version other : Version} (inside : version ∈ versions.filter range.contains)
      (outside : other ∈ before ++ after) : other ≠ version := by
    rintro rfl
    have inRange := held other inside
    rw [others other outside] at inRange
    cases inRange
  rw [whole, List.append_assoc] at ascending
  obtain ⟨-, behind, below⟩ := List.pairwise_append.mp ascending
  obtain ⟨-, -, above⟩ := List.pairwise_append.mp behind
  refine ⟨before, after, whole, held, others, ?_, ?_⟩
  · intro earlier inFront version member
    have order : earlier ≤ version :=
      below earlier inFront version (List.mem_append_left _ member)
    exact lt_of_le_of_ne order (differ member (List.mem_append_left _ inFront))
  · intro later behind version member
    have order : version ≤ later := above version member later behind
    exact lt_of_le_of_ne order (differ member (List.mem_append_right _ behind)).symm

/-- The releases in a range, whatever its form and its bounds, are a block of the release list. -/
theorem matchingReleases_isBlock {catalog : Catalog} {world : World} {journal : Journal}
    (range : VersionRange)
    (listed : (listReleases (some catalog)).outcome world journal = .ok versions) :
    ∃ before block after, IsBlock range versions before block after ∧
      ∀ elsewhere later,
        (matchingReleases (.range range) (some catalog)).outcome elsewhere later = .ok block := by
  obtain ⟨before, after, isBlock⟩ := exists_isBlock range (ascending_of_listed listed)
  exact ⟨before, _, after, isBlock, outcome_matchingReleases_of_listed listed range⟩

/-- A catalog in which two keys stand for one version, with a release on either side of it. -/
def twoSpellings : Catalog :=
  ⟨Entries.ofPairs [("0.4.6", "v0.4.6+commit.2dabbdf0"), ("0.4.7", "v0.4.7+commit.822622cf"),
    ("0.4.07", "v0.4.7+commit.822622cf"), ("0.5.9", "v0.5.9+commit.e560f70d")], "0.5.9"⟩

/-- The block has a version as often as the release list has it, and no other release. -/
theorem matchingReleases_isBlock_twoSpellings :
    ∃ world before after,
      (listReleases (some twoSpellings)).outcome world [] =
        .ok [⟨0, 4, 6⟩, ⟨0, 4, 7⟩, ⟨0, 4, 7⟩, ⟨0, 5, 9⟩] ∧
      (matchingReleases (.range (.between ⟨0, 4, 7⟩ ⟨0, 5, 8⟩)) (some twoSpellings)).outcome
        world [] = .ok [⟨0, 4, 7⟩, ⟨0, 4, 7⟩] ∧
      IsBlock (.between ⟨0, 4, 7⟩ ⟨0, 5, 8⟩) [⟨0, 4, 6⟩, ⟨0, 4, 7⟩, ⟨0, 4, 7⟩, ⟨0, 5, 9⟩] before
        [⟨0, 4, 7⟩, ⟨0, 4, 7⟩] after := by
  obtain ⟨world⟩ := (inferInstance : Nonempty World)
  -- The entries are in order already.
  have listed : (listReleases (some twoSpellings)).outcome world [] =
      .ok [⟨0, 4, 6⟩, ⟨0, 4, 7⟩, ⟨0, 4, 7⟩, ⟨0, 5, 9⟩] :=
    listReleases_eq_ok_iff.mpr ⟨by decide, Version.sorted_eq_self (by decide)⟩
  obtain ⟨before, block, after, isBlock, matching⟩ :=
    matchingReleases_isBlock (.between ⟨0, 4, 7⟩ ⟨0, 5, 8⟩) listed
  -- What matches is the part of the list that the range holds.
  have filtered := outcome_matchingReleases_of_listed listed (.between ⟨0, 4, 7⟩ ⟨0, 5, 8⟩) world []
  rw [matching world [], Except.ok.injEq] at filtered
  subst filtered
  exact ⟨world, before, after, listed, matching world [], isBlock⟩

end Catalog

end SolcRelease
