import SolcRelease.Proofs.Catalog.Listing
import SolcRelease.Proofs.Inference
import SolcRelease.Proofs.Range.Membership

/-!
The configured bounds cut the release list: the releases that precede metadata come first, and
right behind them those whose metadata does not name the compiler.
-/

namespace SolcRelease

namespace Catalog

/-- Two parts are cut off the beginning of ascending versions, by a first and a last bound. -/
structure IsCut (first last : Version) (versions before within : List Version) : Prop where
  /-- Together the parts are the versions below the first bound or not above the last. -/
  joined : before ++ within =
    versions.filter fun version => version < first ∨ version ≤ last
  /-- Nothing stands in front of the parts or between them. -/
  leading : before ++ within <+: versions
  /-- No version is in both parts. -/
  apart : ∀ version ∈ before, version ∉ within
  /-- With the bounds in order the parts are all the versions up to the last bound. -/
  upToLast : first ≤ last → before ++ within = versions.filter (· ≤ last)

variable {first last : Version} {versions : List Version} {settings : Settings}
  {firstText lastText : Text}

/-- Ascending versions are cut by the range below the first bound and the one up to the last. -/
theorem isCut_of_ascending (first last : Version) (ascending : versions.Pairwise (· ≤ ·)) :
    IsCut first last versions (versions.filter (VersionRange.below first).contains)
      (versions.filter (VersionRange.between first last).contains) := by
  have joined : versions.filter (VersionRange.below first).contains ++
        versions.filter (VersionRange.between first last).contains =
      versions.filter fun version => version < first ∨ version ≤ last := by
    rw [Version.filter_append_filter ascending]
    · refine List.filter_congr fun version _ => ?_
      rw [Bool.eq_iff_iff, Bool.or_eq_true, VersionRange.contains_below_iff,
        VersionRange.contains_between_iff, decide_eq_true_eq]
      -- A version is below the first bound, or else it is not.
      rcases lt_or_ge version first with beneath | above
      · exact iff_of_true (Or.inl beneath) (Or.inl beneath)
      · simp [above, not_lt.mpr above]
    · simp only [VersionRange.contains_below_iff]
      exact fun a b order beneath => lt_of_le_of_lt order beneath
    · simp only [← Bool.not_eq_true, VersionRange.contains_below_iff,
        VersionRange.contains_between_iff]
      exact fun version beneath within => not_lt.mpr within.1 beneath
  refine ⟨joined, ?_, ?_, ?_⟩
  · -- What is reached by either bound lies below what is not, so it comes first.
    rw [joined]
    refine ⟨_, Version.filter_append_filter_not ascending fun a b order reached => ?_⟩
    simp only [decide_eq_true_eq] at reached ⊢
    exact reached.imp (lt_of_le_of_lt order) (le_trans order)
  · intro version isBefore isWithin
    have beneath := VersionRange.contains_below_iff.mp (List.mem_filter.mp isBefore).2
    have within := VersionRange.contains_between_iff.mp (List.mem_filter.mp isWithin).2
    exact not_lt.mpr within.1 beneath
  · intro inOrder
    rw [joined]
    refine List.filter_congr fun version _ => ?_
    -- What precedes the first bound does not go beyond the last one either.
    rw [decide_eq_decide]
    exact or_iff_right_of_imp fun beneath => le_trans (le_of_lt beneath) inOrder

/-- With a readable first bound there is a range below it. -/
theorem belowBound_of_read (hasFirst : Bound.metadataFirst.IsConfigured settings firstText)
    (isFirst : Version.read firstText = .ok first) :
    VersionRange.belowBound settings none = .ok (.below first) := by
  have bound := Bound.version_of_read hasFirst isFirst
  simp [VersionRange.belowBound, Bound.versionOr, bound]

/-- With two readable bounds there is a range between them, whatever their order. -/
theorem betweenBounds_of_read (hasFirst : Bound.metadataFirst.IsConfigured settings firstText)
    (isFirst : Version.read firstText = .ok first)
    (hasLast : Bound.versionlessLast.IsConfigured settings lastText)
    (isLast : Version.read lastText = .ok last) :
    VersionRange.betweenBounds settings none none = .ok (.between first last) := by
  have lower := Bound.version_of_read hasFirst isFirst
  have upper := Bound.version_of_read hasLast isLast
  simp [VersionRange.betweenBounds, Bound.versionOr, lower, upper]

/--
Under bounds that are versions, in any order, the releases in the two configured ranges are cut off
the beginning of the release list; either range is empty only where its bounds leave no version.
-/
theorem bounds_cut_releases {catalog : Catalog} {world : World} {journal : Journal}
    (hasFirst : Bound.metadataFirst.IsConfigured settings firstText)
    (isFirst : Version.read firstText = .ok first)
    (hasLast : Bound.versionlessLast.IsConfigured settings lastText)
    (isLast : Version.read lastText = .ok last)
    (listed : (listReleases (some catalog)).outcome world journal = .ok versions) :
    ∃ (absent present : VersionRange) (before within : List Version),
      VersionRange.belowBound settings none = .ok absent ∧
      VersionRange.betweenBounds settings none none = .ok present ∧
      (∀ elsewhere later, (matchingReleases (.range absent) (some catalog)).outcome elsewhere later
        = .ok before) ∧
      (∀ elsewhere later, (matchingReleases (.range present) (some catalog)).outcome elsewhere later
        = .ok within) ∧
      IsCut first last versions before within ∧
      ((∀ version, present.contains version = false) ↔ last < first) ∧
      ((∀ version, absent.contains version = false) ↔ first = ⟨0, 0, 0⟩) := by
  -- Both ranges are applied to one list, which ascends.
  have matching := outcome_matchingReleases_of_listed listed
  have cut := isCut_of_ascending first last (ascending_of_listed listed)
  exact ⟨.below first, .between first last, _, _, belowBound_of_read hasFirst isFirst,
    betweenBounds_of_read hasFirst isFirst hasLast isLast, matching _, matching _, cut,
    VersionRange.between_isEmpty_iff, VersionRange.below_isEmpty_iff⟩

/-- A world whose settings have the bounds out of order. -/
def inverted : World :=
  ⟨(Settings.unset.update .metadataFirst (some "0.6.0")).update .versionlessLast (some "0.4.26"),
    fun _ => .unreachable [] [], .hundred, 0, [], fun _ => false⟩

/-- A catalog with releases on all sides of two bounds, one of them under two keys. -/
def manyReleases : Catalog :=
  ⟨Entries.ofPairs [("0.4.26", "v0.4.26"), ("0.5.0", "v0.5.0"), ("0.05.0", "v0.5.0"),
    ("0.6.0", "v0.6.0")], "0.6.0"⟩

/-- With the bounds out of order all releases below the first one are in the first part. -/
theorem bounds_cut_releases_inverted :
    ∃ before within : List Version,
      (matchingReleases (.range (.below ⟨0, 6, 0⟩)) (some manyReleases)).outcome inverted []
        = .ok before ∧
      (matchingReleases (.range (.between ⟨0, 6, 0⟩ ⟨0, 4, 26⟩)) (some manyReleases)).outcome
        inverted [] = .ok within ∧
      before ++ within = [⟨0, 4, 26⟩, ⟨0, 5, 0⟩, ⟨0, 5, 0⟩] ∧
      ∀ version, (VersionRange.between ⟨0, 6, 0⟩ ⟨0, 4, 26⟩).contains version = false := by
  have hasFirst : Bound.metadataFirst.IsConfigured inverted.settings "0.6.0" :=
    Bound.isConfigured_iff.mpr rfl
  have isFirst : Version.read "0.6.0" = .ok ⟨0, 6, 0⟩ := by decide
  have hasLast : Bound.versionlessLast.IsConfigured inverted.settings "0.4.26" :=
    Bound.isConfigured_iff.mpr rfl
  have isLast : Version.read "0.4.26" = .ok ⟨0, 4, 26⟩ := by decide
  have listed : (listReleases (some manyReleases)).outcome inverted [] =
      .ok [⟨0, 4, 26⟩, ⟨0, 5, 0⟩, ⟨0, 5, 0⟩, ⟨0, 6, 0⟩] := by
    refine listReleases_eq_ok_iff.mpr ⟨by decide, ?_⟩
    -- The entries are in order already.
    have entries : Catalog.listed manyReleases.releases =
        [⟨0, 4, 26⟩, ⟨0, 5, 0⟩, ⟨0, 5, 0⟩, ⟨0, 6, 0⟩] := by decide
    rw [entries, Version.sorted, List.mergeSort_of_pairwise (by decide)]
  obtain ⟨absent, present, before, within, isAbsent, isPresent, isBefore, isWithin, cut, empty,
    -⟩ := bounds_cut_releases hasFirst isFirst hasLast isLast listed
  -- The two ranges are those of the bounds.
  rw [belowBound_of_read hasFirst isFirst] at isAbsent
  rw [betweenBounds_of_read hasFirst isFirst hasLast isLast] at isPresent
  obtain rfl := Except.ok.inj isAbsent
  obtain rfl := Except.ok.inj isPresent
  exact ⟨before, within, isBefore _ _, isWithin _ _, cut.joined, empty.mpr (by decide)⟩

end Catalog

end SolcRelease
