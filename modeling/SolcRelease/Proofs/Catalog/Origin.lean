import SolcRelease.Proofs.Catalog.Document
import SolcRelease.Proofs.Catalog.Fetch
import SolcRelease.Proofs.Catalog.Lookup
import SolcRelease.Proofs.Json.Shown

/-!
Catalogs and the documents that they come from: what a version resolves to is what the document
offers for it, in the order of the document, and a catalog that is written down is read again.
-/

namespace SolcRelease

namespace Catalog

/--
A document offers a value under a key if its releases are an object that has the value there.

Null and the empty string are no offers.
-/
def Offers (members : Entries Json) (key : Text) (value : Json) : Prop :=
  ∃ releases, members.get? "releases" = some (.object releases) ∧
    Entries.get? releases key = some value ∧ value ≠ .null ∧ value ≠ .string []

/-- Tells whether a member is there for more than to say that there is nothing. -/
def isPresent (member : Text × Json) : Bool :=
  match member.2 with
  | .null => false
  | _ => true

/-- A catalog is true to a document if it tells what the document tells, in the same order. -/
structure IsTrueTo (catalog : Catalog) (members : Entries Json) : Prop where
  /-- A version resolves to the identifier of the build that is offered under its text. -/
  offered : ∀ key version value, Version.ofText key = .ok version → Offers members key value →
    ∃ build, value.plain = .ok build ∧ ∀ world journal,
      (resolve key (some catalog)).outcome world journal = .ok (BuildName.identifier build)
  /-- Without an offer the release is missing. -/
  missing : ∀ key version, Version.ofText key = .ok version →
    (∀ value, ¬ Offers members key value) → ∀ world journal,
      (resolve key (some catalog)).outcome world journal =
        .error (.refusal (.releaseMissing key))
  /-- Each member that is not null gives one release, and they stay in order. -/
  ordered : List.Forall₂ (fun member release => member.1 = release.1 ∧
    member.2.plain = .ok release.2) ((releaseMembers members).filter isPresent) catalog.releases
  /-- Written down, the catalog is read as the same catalog again. -/
  again : ofJson catalog.toJson = .ok catalog

variable {members : Entries Json} {releases : Entries Text} {catalog : Catalog}
  {key build : Text} {value : Json}

section Members

/-- A member stands for a release if it is not null and its value has a text. -/
theorem released?_eq_some_iff {member : Text × Json} :
    released? member = some (key, build) ↔
      member.1 = key ∧ member.2 ≠ .null ∧ member.2.plain = .ok build := by
  have kept (result : Except TooManyDigits Text) :
      result.toOption = some build ↔ result = .ok build := by
    cases result <;> simp [Except.toOption]
  obtain ⟨name, value⟩ := member
  -- Only a null is told apart from the other kinds of values.
  unfold released?
  split
  · rename_i isNull
    have null : value = .null := isNull
    simp [null]
  · rename_i notNull
    simpa [kept, and_comm] using fun _ _ => notNull

/-- Each member that is not null gives a release. -/
theorem forall₂_of_releasesOf (found : releasesOf members = .ok releases) :
    List.Forall₂ (fun member release => member.1 = release.1 ∧ member.2.plain = .ok release.2)
      (members.filter isPresent) releases := by
  induction members using releasesOf.induct generalizing releases with
  | case1 =>
    cases found
    exact .nil
  | case2 key rest ih =>
    -- A null is passed over on both sides.
    rw [releasesOf] at found
    exact ih found
  | case3 key value rest notNull ih =>
    simp only [releasesOf, Outcome.bind_eq_ok_iff, Except.ok.injEq] at found
    obtain ⟨build, plain, others, more, rfl⟩ := found
    have present : isPresent (key, value) = true := by
      cases value with
      | null => exact absurd rfl notNull
      | _ => rfl
    rw [List.filter_cons_of_pos present]
    exact .cons ⟨rfl, plain⟩ (ih more)

/-- The releases have a build under a key if the members have a value with that text there. -/
theorem get?_releasesOf_iff (distinct : members.Distinct)
    (found : releasesOf members = .ok releases) :
    releases.get? key = some build ↔
      ∃ value, members.get? key = some value ∧ value ≠ .null ∧ value.plain = .ok build := by
  obtain rfl := eq_filterMap_of_releasesOf found
  -- With distinct keys, to be found is to be there.
  rw [Entries.get?_eq_some_iff (distinct_filterMap_released? distinct), List.mem_filterMap]
  simp only [released?_eq_some_iff, Entries.get?_eq_some_iff distinct]
  constructor
  · rintro ⟨⟨_, value⟩, inside, rfl, present, plain⟩
    exact ⟨value, inside, present, plain⟩
  · rintro ⟨value, inside, present, plain⟩
    exact ⟨(key, value), inside, rfl, present, plain⟩

/-- The members that stand for releases are looked up in the object of the releases. -/
theorem get?_releaseMembers_iff :
    (releaseMembers members).get? key = some value ↔
      ∃ inner, members.get? "releases" = some (.object inner) ∧
        Entries.get? inner key = some value := by
  unfold releaseMembers
  split
  · rename_i inner isObject
    simp [isObject]
  · rename_i other
    -- Nothing is found among no members, nor where there is no object.
    refine iff_of_false nofun ?_
    rintro ⟨inner, isObject, -⟩
    exact other inner isObject

/-- What a document offers has a text, if its integers are short enough. -/
theorem exists_plain_of_offers (short : Json.haveWritable members = true)
    (offers : Offers members key value) : ∃ build, value.plain = .ok build := by
  obtain ⟨inner, isObject, inside, -⟩ := offers
  -- A member of a member is a part of the document.
  have able := isWritable_of_get? short isObject
  rw [Json.isWritable] at able
  exact Json.plain_of_isWritable (isWritable_of_get? able inside)

end Members

section Catalogs

/-- A catalog has the builds that its document offers. -/
theorem build?_ofMembers_iff (distinct : (releaseMembers members).Distinct)
    (made : ofMembers members = .ok catalog) :
    catalog.build? key = some build ↔
      ∃ value, Offers members key value ∧ value.plain = .ok build := by
  simp only [ofMembers_eq, Outcome.bind_eq_ok_iff, Except.ok.injEq] at made
  obtain ⟨releases, collected, latest, -, rfl⟩ := made
  rw [build?_eq_some_iff, get?_releasesOf_iff distinct collected]
  simp only [get?_releaseMembers_iff]
  -- The build is empty just if the value is the empty string.
  constructor
  · rintro ⟨⟨value, ⟨inner, isObject, inside⟩, present, plain⟩, named⟩
    refine ⟨value, ⟨inner, isObject, inside, present, ?_⟩, plain⟩
    rintro rfl
    exact named (Except.ok.inj plain).symm
  · rintro ⟨value, ⟨inner, isObject, inside, present, filled⟩, plain⟩
    refine ⟨⟨value, ⟨inner, isObject, inside⟩, present, plain⟩, ?_⟩
    rintro rfl
    exact filled (Json.plain_eq_nil_iff.mp plain)

/-- Builds that are written down as strings are collected again. -/
theorem releasesOf_map_string (entries : Entries Text) :
    releasesOf (entries.map fun entry => (entry.1, .string entry.2)) = .ok entries := by
  induction entries with
  | nil => rfl
  | cons entry rest ih =>
    -- A string is no null, and its text is the build that it was made of.
    rw [List.map_cons, releasesOf, ih]
    · rfl
    · intro null
      cases null

/-- A catalog that is written down is read again. -/
theorem ofJson_toJson (catalog : Catalog) : ofJson catalog.toJson = .ok catalog := by
  obtain ⟨releases, latest⟩ := catalog
  let members : Entries Json :=
    [("releases", .object (releases.map fun entry => (entry.1, .string entry.2))),
      ("latestRelease", .string latest)]
  have collected : releasesOf (releaseMembers members) = .ok releases :=
    releasesOf_map_string releases
  have named : latestText members = .ok latest := by
    -- An empty text for the latest release is the same as none.
    cases latest <;> rfl
  show Failure.ofWriting (ofMembers members) = _
  rw [ofMembers_eq, collected, named]
  rfl

end Catalogs

/--
A document whose integers are short enough is read as a catalog that is true to it, if its releases
have distinct keys, like the members of any object.
-/
theorem ofJson_isTrueTo (short : (Json.object members).isWritable = true)
    (distinct : (releaseMembers members).Distinct) :
    ∃ catalog, ofJson (.object members) = .ok catalog ∧ catalog.IsTrueTo members := by
  rw [Json.isWritable] at short
  obtain ⟨catalog, made⟩ := exists_ofMembers short
  refine ⟨catalog, by rw [ofJson, made]; rfl, ?_, ?_, ?_, ofJson_toJson catalog⟩
  · intro key version value readable offers
    obtain ⟨build, plain⟩ := exists_plain_of_offers short offers
    have named := (build?_ofMembers_iff distinct made).mpr ⟨value, offers, plain⟩
    exact ⟨build, plain, fun world journal =>
      outcome_resolve_of_build? world journal readable rfl named⟩
  · intro key version readable nothing world journal
    have unnamed : catalog.build? key = none := by
      rw [Option.eq_none_iff_forall_ne_some]
      intro build named
      obtain ⟨value, offers, -⟩ := (build?_ofMembers_iff distinct made).mp named
      exact nothing value offers
    rw [outcome_resolve_of_denotes world journal readable]
    exact identifierOf_eq_error_iff.mpr ⟨unnamed, rfl⟩
  · simp only [ofMembers_eq, Outcome.bind_eq_ok_iff, Except.ok.injEq] at made
    obtain ⟨releases, collected, latest, -, rfl⟩ := made
    exact forall₂_of_releasesOf collected

/-- The members of a document that offers a build and a number, besides a null and an empty text. -/
def fourKinds : Entries Json :=
  [("releases", .object
      [("0.8.4", .string "soljson-v0.8.4+commit.c7e474f2.js"), ("0.8.5", .null),
        ("0.8.6", .string []), ("0.8.7", .whole 7)]),
    ("latestRelease", .string "0.8.4")]

/-- Of four kinds of members, the build is unwrapped, and a null is as good as no member. -/
theorem ofJson_isTrueTo_fourKinds :
    ∃ (catalog : Catalog) (world : World), ofJson (.object fourKinds) = .ok catalog ∧
      (resolve "0.8.4" (some catalog)).outcome world [] = .ok "v0.8.4+commit.c7e474f2" ∧
      (resolve "0.8.5" (some catalog)).outcome world [] =
        .error (.refusal (.releaseMissing "0.8.5")) := by
  have short : (Json.object fourKinds).isWritable = true := by decide
  have distinct : (releaseMembers fourKinds).Distinct := by decide
  obtain ⟨catalog, made, isTrue⟩ := ofJson_isTrueTo short distinct
  obtain ⟨world⟩ := (inferInstance : Nonempty World)
  refine ⟨catalog, world, made, ?_, ?_⟩
  · have offers : Offers fourKinds "0.8.4" (.string "soljson-v0.8.4+commit.c7e474f2.js") :=
      ⟨_, rfl, rfl, nofun, nofun⟩
    obtain ⟨build, plain, resolves⟩ :=
      isTrue.offered "0.8.4" ⟨0, 8, 4⟩ _ (Version.ofText_eq_ok_iff.mpr (by decide)) offers
    obtain rfl := Except.ok.inj plain
    exact (resolves world []).trans (congrArg Except.ok (by decide))
  · refine isTrue.missing "0.8.5" ⟨0, 8, 5⟩ (Version.ofText_eq_ok_iff.mpr (by decide)) ?_ world []
    rintro value ⟨releases, found, inside, present, -⟩
    cases found
    cases inside
    exact present rfl

end Catalog

end SolcRelease
