import SolcRelease.Proofs.Catalog.Block
import SolcRelease.Proofs.Service.Obstacle
import SolcRelease.Proofs.Version.RoundTrip

/-!
Spellings of a version: a catalog at hand is searched for the text as it is given, while a version
and the route of its compiler are looked up under the one text that the version is written as.
-/

namespace SolcRelease

namespace Catalog

/-- Two lookups come to the same: both to one identifier, or both to a release that is missing. -/
def ComeToSame (one other : Except Failure Text) : Prop :=
  (∃ identifier, one = .ok identifier ∧ other = .ok identifier) ∨
    ∃ text key, one = .error (.refusal (.releaseMissing text)) ∧
      other = .error (.refusal (.releaseMissing key))

/-- In a catalog a text is looked up like another one. -/
def LooksUpLike (catalog : Catalog) (text key : Text) : Prop :=
  ∀ world journal, ComeToSame ((resolve text (some catalog)).outcome world journal)
    ((resolve key (some catalog)).outcome world journal)

/-- The identifier of the build under a text, if there is a build. -/
def identifier? (catalog : Catalog) (text : Text) : Option Text :=
  (catalog.build? text).map BuildName.identifier

/-- A catalog with one build, under one text. -/
def single (key build : Text) : Catalog :=
  ⟨[(key, build)], []⟩

/-- A version is looked up as a text, by itself and on the way of a request for its compiler. -/
structure IsLookedUpAs (version : Version) (key : Text) : Prop where
  /-- By itself the version is looked up as that text in the catalog that is fetched. -/
  alone : ∀ world journal, (resolveVersion version).outcome world journal =
    (fetch none none).outcome world journal >>= fun catalog =>
      (resolve key (some catalog)).outcome world journal
  /-- So is the compiler of any text that denotes the version. -/
  route : ∀ text, Version.ofText text = .ok version → ∀ world journal,
    (Service.compiler text).outcome world journal =
      (fetch none none).outcome world journal >>= fun catalog =>
        (resolve key (some catalog)).outcome world journal >>= fun build =>
          .ok (Service.compilerDocument key build)

variable {catalog : Catalog} {text key build : Text} {version other : Version}

/-- Texts of versions come to the same if they have the same identifier, or neither has any. -/
theorem comeToSame_identifierOf_iff :
    ComeToSame (catalog.identifierOf text) (catalog.identifierOf key) ↔
      catalog.identifier? text = catalog.identifier? key := by
  -- There is a build under both texts, under one of them, or under none.
  unfold identifierOf identifier?
  cases catalog.build? text with
  | some build =>
    cases catalog.build? key with
    | some another => simp [ComeToSame, eq_comm]
    | none => simp [ComeToSame]
  | none =>
    cases catalog.build? key with
    | some another => simp [ComeToSame]
    | none => simp [ComeToSame]

/-- A text of a version is looked up like another one if the catalog has the same under both. -/
theorem looksUpLike_iff (denotes : Version.ofText text = .ok version)
    (another : Version.ofText key = .ok other) :
    LooksUpLike catalog text key ↔ catalog.identifier? text = catalog.identifier? key := by
  -- No world has any part in a lookup in a catalog at hand.
  unfold LooksUpLike
  simp only [outcome_resolve_of_denotes _ _ denotes, outcome_resolve_of_denotes _ _ another,
    forall_const]
  exact comeToSame_identifierOf_iff

/-- In a catalog with one build, the identifier of that build is found under its text. -/
theorem identifier?_single (named : build ≠ []) :
    (single key build).identifier? key = some (BuildName.identifier build) := by
  have entry : (single key build).build? key = some build :=
    build?_eq_some_iff.mpr ⟨by simp [single, Entries.get?], named⟩
  rw [identifier?, entry]
  rfl

/-- In a catalog with one build, there is nothing under any other text. -/
theorem identifier?_single_of_ne (differ : text ≠ key) :
    (single key build).identifier? text = none := by
  have nothing : (single key build).build? text = none := by
    apply build?_eq_none_iff.mpr
    intro another entry
    simp [single, Entries.get?, differ] at entry
  rw [identifier?, nothing]
  rfl

/-- Different texts are told apart by a catalog that has a build under just one of them. -/
theorem eq_of_looksUpLike (denotes : Version.ofText text = .ok version)
    (another : Version.ofText key = .ok other)
    (alike : ∀ catalog, LooksUpLike catalog text key) : text = key := by
  by_contra differ
  -- The catalog with a build under the second text has nothing for the first.
  have same := (looksUpLike_iff denotes another).mp (alike (single key "v"))
  rw [identifier?_single (by decide), identifier?_single_of_ne differ] at same
  cases same

/-- A version is looked up under the text that it is written as. -/
theorem isLookedUpAs_written (fits : version.Fits) : IsLookedUpAs version version.written := by
  have text := Version.text_eq_ok_iff.mpr ⟨fits, rfl⟩
  have again := Version.ofText_eq_ok_iff.mpr (Version.read_written fits)
  constructor
  · intro world journal
    -- The text is written and read again before the catalog is sought, and both go well.
    simp only [resolveVersion, resolve, orFetched, text, again, Failure.ofWriting,
      Activity.outcome_bind, Activity.outcome_ofWriting, Activity.outcome_ofOutcome,
      Activity.after_ofWriting, Activity.after_ofOutcome, Activity.outcome_pure, Outcome.ok_bind]
  · intro other denotes world journal
    -- From the version on, the text that was asked for has no part in it.
    rw [Service.outcome_compiler, denotes, Outcome.ok_bind,
      Service.documentOfVersion_of_fits fits, outcome_fetch]
    simp only [outcome_resolve_of_denotes _ _ again]
    rfl

/--
A version and the route of its compiler are looked up as the text that the version is written as.
Another text that denotes it is looked up like that one if the catalog has the same under both, and
in all catalogs just if it is the same text, a canonical one.
-/
theorem looksUpLike_written_iff (denotes : Version.ofText text = .ok version) :
    ∃ key, version.text = .ok key ∧ Version.ofText key = .ok version ∧ IsLookedUpAs version key ∧
      (∀ catalog : Catalog,
        LooksUpLike catalog text key ↔ catalog.identifier? text = catalog.identifier? key) ∧
      ((∀ catalog, LooksUpLike catalog text key) ↔ Version.IsCanonical text) := by
  have read := Version.ofText_eq_ok_iff.mp denotes
  have fits := Version.fits_of_read read
  have again := Version.ofText_eq_ok_iff.mpr (Version.read_written fits)
  refine ⟨version.written, Version.text_eq_ok_iff.mpr ⟨fits, rfl⟩, again,
    isLookedUpAs_written fits, fun catalog => looksUpLike_iff denotes again, ?_⟩
  rw [← Version.written_eq_iff_isCanonical read]
  constructor
  · intro alike
    exact (eq_of_looksUpLike denotes again alike).symm
  · intro same catalog
    rw [looksUpLike_iff denotes again, same]

/-- A zero too many does no harm in a catalog with both spellings, and harm in some other one. -/
theorem looksUpLike_written_twoSpellings :
    LooksUpLike twoSpellings "0.4.07" "0.4.7" ∧
      ¬ ∀ catalog, LooksUpLike catalog "0.4.07" "0.4.7" := by
  have denotes : Version.ofText "0.4.07" = .ok ⟨0, 4, 7⟩ :=
    Version.ofText_eq_ok_iff.mpr (by decide)
  have written : (⟨0, 4, 7⟩ : Version).text = .ok "0.4.7" := by decide
  obtain ⟨key, same, -, -, one, all⟩ := looksUpLike_written_iff denotes
  cases written.symm.trans same
  constructor
  · apply (one twoSpellings).mpr
    decide
  · intro alike
    -- The text would be written as it is read, and it is not.
    have canonical := all.mp alike
    rw [← Version.written_eq_iff_isCanonical (Version.ofText_eq_ok_iff.mp denotes)] at canonical
    revert canonical
    decide

/-- A text with a part too many denotes a released version, and yet the release is missing. -/
theorem not_looksUpLike_fourParts :
    Version.ofText "0.8.4.1" = .ok ⟨0, 8, 4⟩ ∧ (⟨0, 8, 4⟩ : Version).text = .ok "0.8.4" ∧
      ¬ LooksUpLike (single "0.8.4" "soljson-v0.8.4+commit.c7e474f2.js") "0.8.4.1" "0.8.4" := by
  have denotes : Version.ofText "0.8.4.1" = .ok ⟨0, 8, 4⟩ :=
    Version.ofText_eq_ok_iff.mpr (by decide)
  have again : Version.ofText "0.8.4" = .ok ⟨0, 8, 4⟩ := Version.ofText_eq_ok_iff.mpr (by decide)
  refine ⟨denotes, by decide, fun alike => ?_⟩
  have same := (looksUpLike_iff denotes again).mp alike
  rw [identifier?_single (by decide), identifier?_single_of_ne (by decide)] at same
  cases same

end Catalog

end SolcRelease
