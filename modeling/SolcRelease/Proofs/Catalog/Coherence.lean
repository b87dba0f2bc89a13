import SolcRelease.Proofs.Catalog.Listing
import SolcRelease.Proofs.Catalog.Lookup
import SolcRelease.Proofs.Entries

/-! Listing a catalog and looking versions up in it are two views of the same releases. -/

namespace SolcRelease

namespace Catalog

variable {catalog : Catalog} {text : Text} {version : Version} {versions : List Version}
  {world : World} {journal : Journal}

/-- A text resolves in a catalog if an identifier comes of it, which takes no help of the world. -/
def Resolves (catalog : Catalog) (text : Text) : Prop :=
  ∃ identifier, ∀ world journal,
    (resolve text (some catalog)).outcome world journal = .ok identifier

/-- A catalog is canonical if the keys of its releases are written as their versions are. -/
def Canonical (catalog : Catalog) : Prop :=
  ∀ key build version, (key, build) ∈ catalog.releases → build ≠ [] →
    Version.ofText key = .ok version → version.text = .ok key

/-- A list of versions and the lookup in a catalog tell the same about its releases. -/
structure Coherent (catalog : Catalog) (versions : List Version) : Prop where
  /-- The versions of the list are those of the keys that resolve. -/
  listed : ∀ version, version ∈ versions ↔
    ∃ key ∈ catalog.releases.map Prod.fst, Version.ofText key = .ok version ∧ catalog.Resolves key
  /-- A version that fits is in the list if its own text resolves. -/
  found : ∀ version : Version, version.Fits →
    ∃ text, version.text = .ok text ∧ (catalog.Resolves text → version ∈ versions)
  /-- In a canonical catalog the text of every version in the list resolves. -/
  resolved : catalog.Canonical → ∀ version ∈ versions,
    ∃ text, version.text = .ok text ∧ catalog.Resolves text
  /-- In a canonical catalog no version is in the list twice, and the list ascends. -/
  ascending : catalog.Canonical → versions.Pairwise (· < ·)

/-- With distinct keys, a text resolves if it is a version with an entry that has a build. -/
theorem resolves_iff (distinct : catalog.releases.Distinct) :
    catalog.Resolves text ↔ (∃ version, Version.read text = .ok version) ∧
      ∃ build, (text, build) ∈ catalog.releases ∧ build ≠ [] := by
  simp only [Resolves, outcome_resolve, forall_const, resolution_eq_ok_iff,
    Entries.get?_eq_some_iff distinct]
  constructor
  · intro ⟨identifier, readable, build, member, named, _⟩
    exact ⟨readable, build, member, named⟩
  · intro ⟨readable, build, member, named⟩
    -- The identifier that it resolves to is that of the build.
    exact ⟨_, readable, build, member, named, rfl⟩

/-- The versions that a catalog adds to a list are those of its keys that resolve. -/
theorem mem_listed_iff_resolves (distinct : catalog.releases.Distinct) :
    version ∈ Catalog.listed catalog.releases ↔
      ∃ key ∈ catalog.releases.map Prod.fst,
        Version.ofText key = .ok version ∧ catalog.Resolves key := by
  simp only [mem_listed, resolves_iff distinct, Version.ofText_eq_ok_iff, List.mem_map,
    Prod.exists, exists_and_right, exists_eq_right]
  constructor
  · intro ⟨key, build, member, named, read⟩
    -- One entry serves for the list and for the lookup.
    exact ⟨key, ⟨build, member⟩, read, ⟨version, read⟩, build, member, named⟩
  · intro ⟨key, _, read, _, build, member, named⟩
    exact ⟨key, build, member, named, read⟩

/-- A canonical catalog lists no version twice, since two keys of one version would be the same. -/
theorem nodup_listed (distinct : catalog.releases.Distinct) (canonical : catalog.Canonical) :
    (Catalog.listed catalog.releases).Nodup := by
  rw [List.Nodup, Catalog.listed, List.pairwise_filterMap]
  -- Any two entries have different keys, and each key is the text of its version.
  have apart : catalog.releases.Pairwise fun first second => first.1 ≠ second.1 :=
    List.pairwise_map.mp distinct
  refine apart.imp_of_mem ?_
  rintro ⟨key, build⟩ ⟨other, otherBuild⟩ inside otherInside different a first b second rfl
  obtain ⟨named, read⟩ := listed?_eq_some_iff.mp first
  obtain ⟨otherNamed, otherRead⟩ := listed?_eq_some_iff.mp second
  -- If both add the same version, then both keys are the text of that version.
  have text := canonical key build a inside named (Version.ofText_eq_ok_iff.mpr read)
  have otherText :=
    canonical other otherBuild a otherInside otherNamed (Version.ofText_eq_ok_iff.mpr otherRead)
  rw [text] at otherText
  exact different (Except.ok.inj otherText)

/-- A version that has a build under its own text is among the releases that are listed. -/
theorem mem_of_build? {build : Text} (fits : version.Fits)
    (named : catalog.build? version.written = some build)
    (found : (listReleases (some catalog)).outcome world journal = .ok versions) :
    version ∈ versions := by
  obtain ⟨inside, nonempty⟩ := build?_eq_some_iff.mp named
  obtain ⟨-, rfl⟩ := listReleases_eq_ok_iff.mp found
  -- The entry of the build adds a version to the list, and it is the one that was written.
  rw [Version.mem_sorted, mem_listed]
  exact ⟨version.written, build, Entries.mem_of_get? inside, nonempty, Version.read_written fits⟩

/-- The releases of a catalog are listed as they are looked up, and each identifier is a text. -/
theorem coherent_listReleases (distinct : catalog.releases.Distinct)
    (found : (listReleases (some catalog)).outcome world journal = .ok versions) :
    Coherent catalog versions ∧
      ∀ (text identifier : Text) (source : Option Catalog) (world : World) (journal : Journal),
        (resolve text source).outcome world journal = .ok identifier → identifier ≠ [] := by
  refine ⟨?_, fun _ _ _ world journal => identifier_ne_nil_of_resolve world journal⟩
  -- The list holds the versions that the entries add, sorted.
  rw [outcome_listReleases, outcome_orFetched_some, Outcome.ok_bind,
    Outcome.bind_eq_ok_iff] at found
  obtain ⟨unsorted, entries, sorted⟩ := found
  obtain ⟨-, rfl⟩ := listing_eq_ok_iff.mp entries
  obtain rfl := Except.ok.inj sorted
  have listed (version : Version) : version ∈ Version.sorted (Catalog.listed catalog.releases) ↔
      ∃ key ∈ catalog.releases.map Prod.fst,
        Version.ofText key = .ok version ∧ catalog.Resolves key :=
    Version.mem_sorted.trans (mem_listed_iff_resolves distinct)
  refine ⟨listed, ?_, ?_, ?_⟩
  · intro version fits
    -- Its own text is read as the version again.
    have read : Version.ofText version.written = .ok version :=
      Version.ofText_eq_ok_iff.mpr (Version.read_written fits)
    refine ⟨version.written, Version.text_eq_ok_iff.mpr ⟨fits, rfl⟩, fun resolves => ?_⟩
    obtain ⟨-, build, member, -⟩ := (resolves_iff distinct).mp resolves
    exact (listed version).mpr ⟨_, List.mem_map.mpr ⟨_, member, rfl⟩, read, resolves⟩
  · intro canonical version member
    -- The key that put the version in the list is its text.
    obtain ⟨key, -, read, resolves⟩ := (listed version).mp member
    obtain ⟨-, build, entry, named⟩ := (resolves_iff distinct).mp resolves
    exact ⟨key, canonical key build version entry named read, resolves⟩
  · intro canonical
    -- Sorted versions ascend, and strictly so if none is there twice.
    exact Version.sorted_pairwise_lt (nodup_listed distinct canonical)

/-- A catalog with two releases, out of order, and an entry without a build. -/
def threeEntries : Catalog :=
  ⟨Entries.ofPairs [("0.8.4", "soljson-v0.8.4+commit.c7e474f2.js"),
    ("0.4.7", "v0.4.7+commit.822622cf"), ("0.4.8", "")], "0.8.4"⟩

/-- The catalog with three entries is listed as it is looked up. -/
theorem coherent_threeEntries :
    ∃ (world : World) (versions : List Version),
      (listReleases (some threeEntries)).outcome world [] = .ok versions ∧
        Coherent threeEntries versions := by
  obtain ⟨world⟩ := (inferInstance : Nonempty World)
  -- The entry without a build adds nothing, and the other two are put in order.
  have found : (listReleases (some threeEntries)).outcome world [] =
      .ok (Version.sorted [⟨0, 8, 4⟩, ⟨0, 4, 7⟩]) := by
    rw [outcome_listReleases, outcome_orFetched_some, Outcome.ok_bind,
      listing_eq_ok_iff.mpr ⟨by decide, rfl⟩]
    rfl
  exact ⟨world, _, found, (coherent_listReleases (Entries.distinct_ofPairs _) found).1⟩

end Catalog

end SolcRelease
