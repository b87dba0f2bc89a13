import Mathlib.Data.List.TakeWhile
import SolcRelease.Catalog.Lookup
import SolcRelease.Proofs.Activity
import SolcRelease.Proofs.Outcome
import SolcRelease.Proofs.Version.Order

/-! The versions that a catalog lists: what each entry adds to them, and when there is no list. -/

namespace SolcRelease

namespace Catalog

section Entry

/-- The version that an entry adds to the list, which takes a build and a readable key. -/
def listed? (entry : Text × Text) : Option Version :=
  if entry.2.isEmpty then none else (Version.read entry.1).toOption

/-- The record of an entry that has a build but no version for a key. -/
def skip? (entry : Text × Text) : Option Event :=
  if entry.2.isEmpty then none
  else
    match Version.read entry.1 with
    | .error (.malformed _) =>
      some (.logged ⟨.catalog, .debug, "skipping unparsable release key=" ++ entry.1.quoted⟩)
    | _ => none

/-- The excess of an entry that has a build and a key with too many digits to be read. -/
def excess? (entry : Text × Text) : Option TooManyDigits :=
  if entry.2.isEmpty then none
  else
    match Version.read entry.1 with
    | .error (.tooManyDigits excess) => some excess
    | _ => none

/-- The versions that entries add to the list, in the order of the entries. -/
def listed (entries : Entries Text) : List Version :=
  entries.filterMap listed?

/-- The records of entries without a version for a key, in the order of the entries. -/
def skips (entries : Entries Text) : Journal :=
  entries.filterMap skip?

/-- The first excess among entries. -/
def firstExcess? (entries : Entries Text) : Option TooManyDigits :=
  entries.findSome? excess?

/-- The list that entries give, unless one of them has an excess. -/
def listing (entries : Entries Text) : Except Failure (List Version) :=
  match firstExcess? entries with
  | some excess => .error (.ofExcess excess)
  | none => .ok (listed entries)

variable {key build : Text} {version : Version} {excess : TooManyDigits}

/-- An entry adds a version if it has a build and its key is read as that version. -/
theorem listed?_eq_some_iff :
    listed? (key, build) = some version ↔ build ≠ [] ∧ Version.read key = .ok version := by
  unfold listed?
  split
  · -- Without a build the key is not even read.
    rename_i empty
    have nothing : build = [] := List.isEmpty_iff.mp empty
    simp [nothing]
  · rename_i nonempty
    have something : build ≠ [] := fun nothing => nonempty (List.isEmpty_iff.mpr nothing)
    -- With one, all depends on what the key is read as.
    cases Version.read key with
    | ok found => simp [something, Except.toOption]
    | error failure => simp [Except.toOption]

/-- An entry has an excess if it has a build and its key has too many digits. -/
theorem excess?_eq_some_iff :
    excess? (key, build) = some excess ↔
      build ≠ [] ∧ Version.read key = .error (.tooManyDigits excess) := by
  unfold excess?
  split
  · rename_i empty
    have nothing : build = [] := List.isEmpty_iff.mp empty
    simp [nothing]
  · rename_i nonempty
    have something : build ≠ [] := fun nothing => nonempty (List.isEmpty_iff.mpr nothing)
    split
    · rename_i failed
      simp [something, failed]
    · -- A version and a malformed key are no excess.
      rename_i other
      simp only [reduceCtorEq, false_iff, not_and]
      exact fun _ failed => other excess failed

/-- The versions of a list are those that its entries add. -/
theorem mem_listed {entries : Entries Text} :
    version ∈ listed entries ↔
      ∃ key build, (key, build) ∈ entries ∧ build ≠ [] ∧ Version.read key = .ok version := by
  simp only [listed, List.mem_filterMap, Prod.exists, listed?_eq_some_iff]

end Entry

section Listing

variable (world : World) (journal : Journal)

/-- What one entry does: it is passed over, listed, recorded as skipped, or the end of it all. -/
theorem runAfter_versionsOf_cons (entry : Text × Text) (rest : Entries Text) :
    (versionsOf (entry :: rest)).runAfter world journal =
      match excess? entry with
      | some excess => (.error (.ofExcess excess), journal)
      | none =>
        match (versionsOf rest).runAfter world (journal ++ (skip? entry).toList) with
        | (.ok versions, later) => (.ok ((listed? entry).toList ++ versions), later)
        | (.error failure, later) => (.error failure, later) := by
  obtain ⟨key, build⟩ := entry
  rw [versionsOf]
  -- An empty build hides its key; otherwise the key decides.
  cases hidden : build.isEmpty with
  | true =>
    simp only [excess?, skip?, listed?, hidden, if_true, Option.toList_none, List.append_nil,
      List.nil_append]
    rcases (versionsOf rest).runAfter world journal with ⟨_ | _, later⟩
    · rfl
    · rfl
  | false =>
    simp only [excess?, skip?, listed?, hidden, Bool.false_eq_true, if_false]
    cases read : Version.read key with
    | ok version =>
      -- The version goes in front of those of the rest.
      simp only [Activity.runAfter_bind, Except.toOption, Option.toList_none, List.append_nil]
      rcases (versionsOf rest).runAfter world journal with ⟨_ | _, later⟩
      · rfl
      · rfl
    | error failure =>
      cases failure with
      | malformed flaw =>
        -- Nothing is added but a record.
        simp only [Activity.runAfter_bind, Activity.runAfter_log, Except.toOption,
          Option.toList_none, Option.toList_some, List.nil_append]
        rcases (versionsOf rest).runAfter world _ with ⟨_ | _, later⟩
        · rfl
        · rfl
      | tooManyDigits excess => rfl

/-- The entries give their versions and records up to the first excess, which ends the listing. -/
theorem runAfter_versionsOf (entries : Entries Text) :
    (versionsOf entries).runAfter world journal =
      (listing entries,
        journal ++ skips (entries.takeWhile fun entry => (excess? entry).isNone)) := by
  -- The rest is listed after the record of the first entry, so the journal stays quantified over.
  induction entries generalizing journal with
  | nil => simp [versionsOf, listing, firstExcess?, listed, skips]
  | cons entry rest ih =>
    rw [runAfter_versionsOf_cons, listing, firstExcess?, List.findSome?_cons, List.takeWhile_cons]
    cases excess? entry with
    | some excess =>
      -- The listing ends here, and leaves the journal as it was.
      simp [skips]
    | none =>
      -- The record of the first entry, if there is one, stands before those of the rest.
      have records (others : Entries Text) :
          skips (entry :: others) = (skip? entry).toList ++ skips others := by
        rw [skips, List.filterMap_cons]
        cases skip? entry <;> rfl
      have versions : listed (entry :: rest) = (listed? entry).toList ++ listed rest := by
        rw [listed, List.filterMap_cons]
        cases listed? entry <;> rfl
      simp only [ih, Option.isNone_none, if_true, records, versions, List.append_assoc]
      rw [listing, firstExcess?]
      cases rest.findSome? excess? <;> rfl

/-- The listing of entries comes to their versions or to the first excess. -/
@[simp] theorem outcome_versionsOf (entries : Entries Text) :
    (versionsOf entries).outcome world journal = listing entries := by
  rw [Activity.outcome, runAfter_versionsOf]

/-- A list comes of entries without an excess, and holds the versions that they add. -/
theorem listing_eq_ok_iff {entries : Entries Text} {versions : List Version} :
    listing entries = .ok versions ↔
      firstExcess? entries = none ∧ listed entries = versions := by
  unfold listing
  cases firstExcess? entries <;> simp

/-- No list comes of entries with an excess. -/
theorem listing_eq_error_iff {entries : Entries Text} {failure : Failure} :
    listing entries = .error failure ↔
      ∃ excess, firstExcess? entries = some excess ∧ failure = .ofExcess excess := by
  unfold listing
  cases firstExcess? entries <;> simp [eq_comm]

/-- The releases are the versions of the entries in the catalog, sorted. -/
theorem outcome_listReleases (source : Option Catalog) :
    (listReleases source).outcome world journal = (do
      let catalog ← (orFetched source).outcome world journal
      let versions ← listing catalog.releases
      .ok (Version.sorted versions)) := by
  simp only [listReleases, Activity.outcome_bind, Activity.outcome_pure, outcome_versionsOf]

/-- A catalog at hand is taken as it is. -/
theorem outcome_orFetched_some (catalog : Catalog) :
    (orFetched (some catalog)).outcome world journal = .ok catalog :=
  rfl

/-- The versions of a list that a range holds stay in their order. -/
theorem within_range (range : VersionRange) (versions : List Version) :
    within (.range range) versions = .ok (versions.filter range.contains) := by
  -- A range tells for every version, so no step fails.
  induction versions with
  | nil => rfl
  | cons version rest ih =>
    rw [within, ih, List.filter_cons]
    rfl

/-- The releases in a range are the sorted versions that it holds. -/
theorem outcome_matchingReleases (range : VersionRange) (source : Option Catalog) :
    (matchingReleases (.range range) source).outcome world journal = (do
      let catalog ← (orFetched source).outcome world journal
      let versions ← listing catalog.releases
      .ok ((Version.sorted versions).filter range.contains)) := by
  simp only [matchingReleases, Activity.outcome_bind, outcome_listReleases,
    Activity.outcome_ofOutcome, within_range]
  -- The range is applied to the list, if there is one.
  cases (orFetched source).outcome world journal with
  | error failure => rfl
  | ok catalog =>
    simp only [Outcome.ok_bind]
    cases listing catalog.releases <;> rfl

/-- A catalog at hand is listed by its entries alone, up to the first excess among them. -/
theorem runAfter_listReleases (catalog : Catalog) :
    (listReleases (some catalog)).runAfter world journal =
      ((listing catalog.releases).map Version.sorted,
        journal ++ skips (catalog.releases.takeWhile fun entry => (excess? entry).isNone)) := by
  simp only [listReleases, orFetched, Activity.runAfter_bind, Activity.runAfter_pure,
    runAfter_versionsOf]
  -- The versions are sorted if there are any, which leaves no record.
  cases listing catalog.releases with
  | ok versions => rfl
  | error failure => rfl

variable {world journal} {versions : List Version}

/-- A catalog without an excess in its entries lists the versions that they add, sorted. -/
theorem listReleases_eq_ok_iff {catalog : Catalog} {world : World} {journal : Journal} :
    (listReleases (some catalog)).outcome world journal = .ok versions ↔
      firstExcess? catalog.releases = none ∧
        Version.sorted (listed catalog.releases) = versions := by
  simp only [outcome_listReleases, outcome_orFetched_some, Outcome.ok_bind, Outcome.bind_eq_ok_iff,
    listing_eq_ok_iff, Except.ok.injEq]
  constructor
  · rintro ⟨_, ⟨short, rfl⟩, sorted⟩
    exact ⟨short, sorted⟩
  · rintro ⟨short, sorted⟩
    exact ⟨_, ⟨short, rfl⟩, sorted⟩

/-- Entries without an excess leave a record each if they are skipped, and no other event. -/
theorem after_listReleases_of_short {catalog : Catalog}
    (short : ∀ entry ∈ catalog.releases, excess? entry = none) :
    (listReleases (some catalog)).after world journal = journal ++ skips catalog.releases := by
  -- No entry ends the listing, so all of them are reached.
  have everything : catalog.releases.takeWhile (fun entry => (excess? entry).isNone) =
      catalog.releases :=
    List.takeWhile_eq_self_iff.mpr fun entry member => by simp [short entry member]
  rw [Activity.after, runAfter_listReleases, everything]

/-- The releases in a range are those of the list that it holds. -/
theorem outcome_matchingReleases_of_listed {catalog : Catalog} {world : World} {journal : Journal}
    (found : (listReleases (some catalog)).outcome world journal = .ok versions)
    (range : VersionRange) (elsewhere : World) (later : Journal) :
    (matchingReleases (.range range) (some catalog)).outcome elsewhere later =
      .ok (versions.filter range.contains) := by
  obtain ⟨short, rfl⟩ := listReleases_eq_ok_iff.mp found
  -- A catalog at hand lists the same anywhere and at any time.
  rw [outcome_matchingReleases, outcome_orFetched_some, Outcome.ok_bind,
    listing_eq_ok_iff.mpr ⟨short, rfl⟩, Outcome.ok_bind]

/-- The releases that a catalog lists ascend. -/
theorem ascending_of_listed {source : Option Catalog} {world : World} {journal : Journal}
    (listed : (listReleases source).outcome world journal = .ok versions) :
    versions.Pairwise (· ≤ ·) := by
  simp only [outcome_listReleases, Outcome.bind_eq_ok_iff, Except.ok.injEq] at listed
  obtain ⟨catalog, -, unsorted, -, rfl⟩ := listed
  exact Version.sorted_pairwise unsorted

end Listing

end Catalog

end SolcRelease
