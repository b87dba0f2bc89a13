import SolcRelease.Proofs.Catalog.Listing
import SolcRelease.Proofs.Version.Given

/-!
Every entry of a catalog is accounted for when it is listed: its version is in the list, or its key
is recorded as skipped, or it has no build.
-/

namespace SolcRelease

namespace Catalog

/-- A catalog has a long key if there is a build below one that has a number of too many digits. -/
def HasLongKey (catalog : Catalog) (excess : TooManyDigits) : Prop :=
  ∃ key build, (key, build) ∈ catalog.releases ∧ build ≠ [] ∧
    Version.ofText key = .error (.fault (.tooManyDigits excess))

/-- Entries are told apart, each kind in the order of the entries. -/
inductive ToldApart : Entries Text → List Version → List Text → List Text → Prop where
  /-- Of no entries there is none of any kind. -/
  | nil : ToldApart [] [] [] []
  /-- A build under the key of a version adds that version. -/
  | listed {key build version entries versions malformed unbuilt} (named : build ≠ [])
    (read : Version.ofText key = .ok version)
    (rest : ToldApart entries versions malformed unbuilt) :
    ToldApart ((key, build) :: entries) (version :: versions) malformed unbuilt
  /-- A build under a malformed key adds that key. -/
  | malformed {key build flaw entries versions malformed unbuilt} (named : build ≠ [])
    (refused : Version.ofText key = .error (.refusal (.invalidVersion key flaw)))
    (rest : ToldApart entries versions malformed unbuilt) :
    ToldApart ((key, build) :: entries) versions (key :: malformed) unbuilt
  /-- A key without a build is one of those, whatever it says. -/
  | unbuilt {key entries versions malformed unbuilt}
    (rest : ToldApart entries versions malformed unbuilt) :
    ToldApart ((key, []) :: entries) versions malformed (key :: unbuilt)

/-- The record that a key was skipped. -/
def skipRecord (key : Text) : Record :=
  ⟨.catalog, .debug, "skipping unparsable release key=" ++ key.quoted⟩

variable {entries : Entries Text} {versions : List Version} {malformed unbuilt : List Text}

/-- Told apart, the entries are as many as there are of the three kinds. -/
theorem ToldApart.length_eq (apart : ToldApart entries versions malformed unbuilt) :
    versions.length + malformed.length + unbuilt.length = entries.length := by
  -- Each entry counts for one kind only.
  induction apart with
  | nil => rfl
  | listed _ _ _ ih | malformed _ _ _ ih | unbuilt _ ih =>
    simp only [List.length_cons]
    omega

/-- An entry without an excess has no build, or it has one and its key is a version or malformed. -/
theorem kinds_of_short {key build : Text} (short : excess? (key, build) = none) :
    build = [] ∨ build ≠ [] ∧ ((∃ version, Version.read key = .ok version) ∨
      ∃ flaw, Version.read key = .error (.malformed flaw)) := by
  by_cases named : build = []
  · exact Or.inl named
  · refine Or.inr ⟨named, ?_⟩
    cases read : Version.read key with
    | ok version => exact Or.inl ⟨version, rfl⟩
    | error failure =>
      cases failure with
      | malformed flaw => exact Or.inr ⟨flaw, rfl⟩
      | tooManyDigits excess =>
        -- A number with too many digits would be an excess of the entry.
        rw [excess?_eq_some_iff.mpr ⟨named, read⟩] at short
        cases short

/-- Entries without an excess are told apart by what they add to the list and to the records. -/
theorem toldApart_of_short (short : ∀ entry ∈ entries, excess? entry = none) :
    ∃ malformed unbuilt, ToldApart entries (Catalog.listed entries) malformed unbuilt ∧
      skips entries = malformed.map fun key => .logged (skipRecord key) := by
  induction entries with
  | nil => exact ⟨[], [], .nil, rfl⟩
  | cons entry rest ih =>
    obtain ⟨key, build⟩ := entry
    obtain ⟨malformed, unbuilt, apart, records⟩ := ih fun other member =>
      short other (List.mem_cons_of_mem _ member)
    rcases kinds_of_short (short _ List.mem_cons_self) with
      rfl | ⟨named, ⟨version, read⟩ | ⟨flaw, bad⟩⟩
    · -- Without a build the entry adds nothing to either.
      exact ⟨malformed, key :: unbuilt, .unbuilt apart, records⟩
    · -- A version goes to the list alone.
      have adds : listed? (key, build) = some version := listed?_eq_some_iff.mpr ⟨named, read⟩
      have silent : skip? (key, build) = none := by simp [skip?, read]
      refine ⟨malformed, unbuilt, ?_, ?_⟩
      · rw [Catalog.listed, List.filterMap_cons_some adds]
        exact .listed named (Version.ofText_eq_ok_iff.mpr read) apart
      · rw [skips, List.filterMap_cons_none silent]
        exact records
    · -- A malformed key goes to the records alone.
      have unlisted : listed? (key, build) = none := by
        simp [listed?, bad, Except.toOption]
      have adds : skip? (key, build) = some (.logged (skipRecord key)) := by
        simp [skip?, named, bad, skipRecord]
      refine ⟨key :: malformed, unbuilt, ?_, ?_⟩
      · rw [Catalog.listed, List.filterMap_cons_none unlisted]
        exact .malformed named (Version.ofText_of_malformed bad) apart
      · rw [skips, List.filterMap_cons_some adds, List.map_cons]
        exact congrArg _ records

/-- A catalog has a long key just if one of its entries has an excess. -/
theorem hasLongKey_iff {catalog : Catalog} {excess : TooManyDigits} :
    catalog.HasLongKey excess ↔ ∃ entry ∈ catalog.releases, excess? entry = some excess := by
  simp only [HasLongKey, Version.ofText_eq_tooManyDigits_iff, Prod.exists, excess?_eq_some_iff]

/-- Without an excess among its entries a catalog has no long key. -/
theorem not_hasLongKey_of_short {catalog : Catalog}
    (short : ∀ entry ∈ catalog.releases, excess? entry = none) :
    ¬ ∃ excess, catalog.HasLongKey excess := by
  rintro ⟨excess, long⟩
  obtain ⟨entry, member, isExcess⟩ := hasLongKey_iff.mp long
  rw [short entry member] at isExcess
  cases isExcess

/--
Either a key has too many digits, and listing fails with the fault of such a key; or no key has, and
the list ascends and holds the readable keys' versions as often as they are there, with one record
for each malformed key, in the order of the catalog. Then every entry counts once.
-/
theorem listReleases_accounts (catalog : Catalog) (world : World) (journal : Journal) :
    (∃ excess, catalog.HasLongKey excess ∧
      (listReleases (some catalog)).outcome world journal =
        .error (.fault (.tooManyDigits excess))) ∨
    (¬ ∃ excess, catalog.HasLongKey excess) ∧
      ∃ versions readable malformed unbuilt,
        (listReleases (some catalog)).outcome world journal = .ok versions ∧
        (listReleases (some catalog)).after world journal =
          journal ++ malformed.map (fun key => .logged (skipRecord key)) ∧
        ToldApart catalog.releases readable malformed unbuilt ∧
        versions.Perm readable ∧ versions.Pairwise (· ≤ ·) ∧
        versions.length + malformed.length + unbuilt.length = catalog.releases.length := by
  cases first : firstExcess? catalog.releases with
  | some excess =>
    -- The first excess ends the listing.
    have long : catalog.HasLongKey excess :=
      hasLongKey_iff.mpr (List.exists_of_findSome?_eq_some first)
    refine Or.inl ⟨excess, long, ?_⟩
    rw [Activity.outcome, runAfter_listReleases, listing, first]
    rfl
  | none =>
    have short : ∀ entry ∈ catalog.releases, excess? entry = none :=
      List.findSome?_eq_none_iff.mp first
    obtain ⟨malformed, unbuilt, apart, records⟩ := toldApart_of_short short
    -- Sorting changes the order of the versions, and nothing else.
    have perm := Version.sorted_perm (Catalog.listed catalog.releases)
    refine Or.inr ⟨not_hasLongKey_of_short short, _, _, malformed, unbuilt,
      listReleases_eq_ok_iff.mpr ⟨first, rfl⟩, ?_, apart, perm, Version.sorted_pairwise _, ?_⟩
    · rw [after_listReleases_of_short short, records]
    · rw [perm.length_eq]
      exact apart.length_eq

end Catalog

end SolcRelease
