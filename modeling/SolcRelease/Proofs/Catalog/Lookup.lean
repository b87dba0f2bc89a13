import SolcRelease.Catalog.Lookup
import SolcRelease.Proofs.Activity
import SolcRelease.Proofs.Catalog.BuildName
import SolcRelease.Proofs.Outcome
import SolcRelease.Proofs.Version.Given

/-! Looking a version up by its text: when there is a build, and what its identifier says. -/

namespace SolcRelease

namespace Catalog

variable {catalog : Catalog} {text build identifier : Text}

/-- The build of a text is the one in its entry, if that is not empty. -/
theorem build?_eq_some_iff :
    catalog.build? text = some build ↔
      Entries.get? catalog.releases text = some build ∧ build ≠ [] := by
  rw [build?, Option.filter_eq_some_iff, Bool.not_eq_true', List.isEmpty_eq_false_iff]

/-- A text has no build if its entry is missing or empty. -/
theorem build?_eq_none_iff :
    catalog.build? text = none ↔
      ∀ build, Entries.get? catalog.releases text = some build → build = [] := by
  simp only [Option.eq_none_iff_forall_ne_some, ne_eq, build?_eq_some_iff, not_and,
    Decidable.not_not]

/-- A text has an identifier if it has a build. -/
theorem identifierOf_eq_ok_iff :
    catalog.identifierOf text = .ok identifier ↔
      ∃ build, catalog.build? text = some build ∧ BuildName.identifier build = identifier := by
  unfold identifierOf
  cases catalog.build? text <;> simp

/-- Without a build, the release is missing. -/
theorem identifierOf_eq_error_iff {failure : Failure} :
    catalog.identifierOf text = .error failure ↔
      catalog.build? text = none ∧ failure = .refusal (.releaseMissing text) := by
  unfold identifierOf
  cases catalog.build? text <;> simp [eq_comm]

/-- What a text resolves to in a catalog, once it is known to be a version. -/
def resolution (catalog : Catalog) (text : Text) : Except Failure Text := do
  let _ ← Version.ofText text
  catalog.identifierOf text

section Resolving

variable (world : World) (journal : Journal)

/-- In a catalog at hand a text resolves without any help of the world. -/
@[simp] theorem outcome_resolve (catalog : Catalog) (text : Text) :
    (resolve text (some catalog)).outcome world journal = catalog.resolution text := by
  -- A catalog at hand is not fetched.
  simp [resolve, resolution, orFetched]

/-- A text that denotes a version is looked up as it stands. -/
theorem outcome_resolve_of_denotes {version : Version}
    (denotes : Version.ofText text = .ok version) :
    (resolve text (some catalog)).outcome world journal = catalog.identifierOf text := by
  rw [outcome_resolve, resolution, denotes, Outcome.ok_bind]

/-- A text resolves if it is a version and has a build. -/
theorem resolution_eq_ok_iff :
    catalog.resolution text = .ok identifier ↔
      (∃ version, Version.read text = .ok version) ∧
        ∃ build, Entries.get? catalog.releases text = some build ∧ build ≠ [] ∧
          BuildName.identifier build = identifier := by
  -- The version itself is not needed, only that the text is read as one.
  simp only [resolution, Outcome.bind_eq_ok_iff, Version.ofText_eq_ok_iff, identifierOf_eq_ok_iff,
    build?_eq_some_iff, and_assoc, exists_and_right]

/-- The text of a version resolves to the identifier of its build, wherever the catalog is from. -/
theorem outcome_resolve_of_build? {source : Option Catalog} {version : Version}
    (readable : Version.ofText text = .ok version)
    (had : (orFetched source).outcome world journal = .ok catalog)
    (named : catalog.build? text = some build) :
    (resolve text source).outcome world journal = .ok (BuildName.identifier build) := by
  -- Reading the text leaves no trace, so the catalog is the one that is had at the start.
  simp only [resolve, Activity.outcome_bind, Activity.outcome_ofOutcome, Activity.after_ofOutcome,
    readable, had, Outcome.ok_bind]
  exact identifierOf_eq_ok_iff.mpr ⟨build, named, rfl⟩

/-- Whatever a text resolves to is not empty, in a catalog at hand or a fetched one. -/
theorem identifier_ne_nil_of_resolve {catalog : Option Catalog}
    (found : (resolve text catalog).outcome world journal = .ok identifier) :
    identifier ≠ [] := by
  simp only [resolve, Activity.outcome_bind, Activity.outcome_ofOutcome, Outcome.bind_eq_ok_iff,
    identifierOf_eq_ok_iff, build?_eq_some_iff] at found
  -- The identifier is that of a build, which has a name.
  obtain ⟨_, -, _, -, build, ⟨-, named⟩, rfl⟩ := found
  exact BuildName.identifier_ne_nil named

end Resolving

end Catalog

end SolcRelease
