import SolcRelease.Proofs.Catalog.Reordering
import SolcRelease.Proofs.Service.Answer
import SolcRelease.Proofs.Service.Document

/-! Documents with their releases in another order: the service answers every request the same. -/

namespace SolcRelease

namespace Service

open Outcome (Alike)

section Documents

variable {first second : Catalog}

/-- The document of the latest compiler is the same. -/
theorem latestDocument_congr (same : first.HasSameEntries second) :
    latestDocument first = latestDocument second := by
  simp only [latestDocument, Catalog.latestVersion_congr same, Catalog.resolution_congr same]

/-- The document of a version's compiler is the same. -/
theorem documentOfVersion_congr (same : first.HasSameEntries second) :
    documentOfVersion (.ok first) = documentOfVersion (.ok second) := by
  funext version
  simp only [documentOfVersion, Outcome.ok_bind, Catalog.identifierOf_congr same]

/-- The candidates are alike, whether they are wanted or not. -/
theorem alike_foundTexts (same : first.HasSameEntries second) (wanted : Bool)
    (range : VersionRange) :
    Alike (foundTexts wanted range (.ok first)) (foundTexts wanted range (.ok second)) := by
  cases wanted with
  | false => exact .of_eq rfl
  | true =>
    -- The texts are those of the part of one ascending list that lies in the range.
    have written := (Catalog.alike_ascending same).then fun versions =>
      Failure.ofWriting (textsOf (versions.filter range.contains))
    simp only [bind_assoc, Outcome.ok_bind] at written
    exact written.then fun texts => .ok (some texts)

end Documents

section Answers

/-- Alike outcomes are answered alike. -/
theorem alike_answered (room : Room) {one other : Except Failure Json} (alike : Alike one other) :
    Alike (answered room one) (answered room other) := by
  rcases alike with rfl | ⟨excess, another, rfl, rfl⟩
  · exact .of_eq rfl
  · -- A number that is too long is no refusal, so there is no answer on either side.
    exact Or.inr ⟨excess, another, rfl, rfl⟩

variable {service : Service} {request : Request} {target : Target} {route : Route}
  {activity : Activity Json} {world : World} {transport : Nat → Delivery} {journal later : Journal}
  {first second : Catalog}

/-- Inference comes to the same with either catalog. -/
theorem alike_inference (same : first.HasSameEntries second)
    (isFirst : nextCatalog world journal = .ok first)
    (isSecond : nextCatalog { world with transport := transport } later = .ok second) :
    Alike ((service.inference target request).outcome world journal)
      ((service.inference target request).outcome { world with transport := transport } later) := by
  cases configured : service.decoder with
  | none =>
    -- Without a decoder the refusal is all there is.
    simp only [inference, configured]
    exact .of_eq rfl
  | some decoder =>
    rw [outcome_inference _ _ configured, outcome_inference _ _ configured, isFirst, isSecond]
    -- The range comes from the decoder, and only the candidates from the catalog.
    refine Alike.bind (.of_eq rfl) fun bytecode => ?_
    refine Alike.bind (.of_eq rfl) fun range => ?_
    refine Alike.bind (.of_eq rfl) fun text => ?_
    exact (alike_foundTexts same _ range).then _

/-- Every route comes to the same with either catalog. -/
theorem alike_of_leads (same : first.HasSameEntries second)
    (isFirst : nextCatalog world journal = .ok first)
    (isSecond : nextCatalog { world with transport := transport } later = .ok second)
    (leads : service.documentOf target request route = some activity) :
    Alike (activity.outcome world journal)
      (activity.outcome { world with transport := transport } later) := by
  cases route with
  | health =>
    -- Neither the health nor the version of the service is a matter of the transport.
    cases leads
    exact .of_eq rfl
  | version =>
    cases leads
    exact .of_eq rfl
  | latestCompiler =>
    cases leads
    rw [outcome_latestCompiler, outcome_latestCompiler, isFirst, isSecond]
    -- All that is read of either catalog is its latest release and one entry.
    exact .of_eq (latestDocument_congr same)
  | compiler text =>
    cases leads
    rw [outcome_compiler, outcome_compiler, isFirst, isSecond, documentOfVersion_congr same]
    exact .of_eq rfl
  | inference =>
    cases leads
    exact alike_inference same isFirst isSecond
  | file => cases leads

/-- Every request is answered the same with either catalog. -/
theorem alike_handle (same : first.HasSameEntries second)
    (isFirst : nextCatalog world journal = .ok first)
    (isSecond : nextCatalog { world with transport := transport } later = .ok second) :
    Alike ((service.handle request).outcome world journal)
      ((service.handle request).outcome { world with transport := transport } later) := by
  rcases page_or_leads service request with ⟨page, always⟩ | ⟨route, activity, taken, leads⟩
  · rw [always, always]
    exact .of_eq rfl
  · -- The answer, whole or just announced, is made of what the route comes to.
    rw [outcome_handle_of_leads _ _ taken leads, outcome_handle_of_leads _ _ taken leads]
    exact (alike_answered _ (alike_of_leads same isFirst isSecond leads)).map _

end Answers

section Runs

variable {members firstMembers secondMembers : Entries Json}

/-- Every fetch of a document that is delivered comes to one catalog. -/
theorem exists_fetched (world : World) (journal : Journal)
    (delivered : Catalog.membersOf world.room.catalog (world.transport journal.inquiries.length) =
      .ok members) :
    ∃ catalog, Catalog.ofMembers members = .ok catalog ∧
      nextCatalog world journal = .ok catalog ∧
      ∀ url timeout, (Catalog.fetch url timeout).outcome world journal = .ok catalog := by
  obtain ⟨catalog, made⟩ := Catalog.exists_ofMembers (Catalog.haveWritable_of_membersOf delivered)
  -- The address has a part in refusals only.
  have found (url : Text) : Catalog.delivered url world.room.catalog
      (world.transport journal.inquiries.length) = .ok catalog :=
    Catalog.delivered_eq_ok_iff.mpr ⟨members, delivered, made⟩
  refine ⟨catalog, made, found _, fun url timeout => ?_⟩
  rw [Catalog.outcome_fetch, found]

/--
Two runs in which the same document is delivered, but for the order of its releases, fetch catalogs
that tell the same about versions, and answer every request the same; only where a number is too
long in one of them is it so in the other, whichever number that is.
-/
theorem answers_of_reordered (world : World) (transport : Nat → Delivery)
    (journal later : Journal) (reordered : Catalog.Reordered firstMembers secondMembers)
    (isFirst : Catalog.membersOf world.room.catalog (world.transport journal.inquiries.length) =
      .ok firstMembers)
    (isSecond : Catalog.membersOf world.room.catalog (transport later.inquiries.length) =
      .ok secondMembers) :
    (∃ first second,
      (∀ url timeout, (Catalog.fetch url timeout).outcome world journal = .ok first ∧
        (Catalog.fetch url timeout).outcome { world with transport := transport } later =
          .ok second) ∧
      first.Agree second) ∧
    ∀ service request,
      Alike ((handle service request).outcome world journal)
        ((handle service request).outcome { world with transport := transport } later) := by
  obtain ⟨first, madeFirst, nextFirst, fetchedFirst⟩ := exists_fetched world journal isFirst
  obtain ⟨second, madeSecond, nextSecond, fetchedSecond⟩ :=
    exists_fetched { world with transport := transport } later isSecond
  -- What the two documents have in common is all that either part needs.
  have same := Catalog.hasSameEntries_of_reordered reordered madeFirst madeSecond
  refine ⟨⟨first, second, ?_, Catalog.agree_of_hasSameEntries same⟩, ?_⟩
  · exact fun url timeout => ⟨fetchedFirst url timeout, fetchedSecond url timeout⟩
  · exact fun service request => alike_handle same nextFirst nextSecond

/-- A transport that delivers one document every time. -/
def documented (text : Text) (_ : Nat) : Delivery :=
  .response (.ofUtf8 200 (Utf8.encode text))

/-- A release under two texts of one version. -/
def twoTexts : Text :=
  "\x7b\"releases\":\x7b\"0.4.6\":\"a\",\"0.4.06\":\"b\"\x7d\x7d"

/-- The same release under the same texts, the other of them first. -/
def twoTextsReordered : Text :=
  "\x7b\"releases\":\x7b\"0.4.06\":\"b\",\"0.4.6\":\"a\"\x7d\x7d"

/-- The members of the one document. -/
def twoTextsMembers : Entries Json :=
  [("releases", .object [("0.4.6", .string "a"), ("0.4.06", .string "b")])]

/-- The members of the other document. -/
def twoTextsReorderedMembers : Entries Json :=
  [("releases", .object [("0.4.06", .string "b"), ("0.4.6", .string "a")])]

/-- A version that is listed twice, and whose texts have different builds, in either order. -/
theorem answers_of_reordered_twoTexts :
    Catalog.Reordered twoTextsMembers twoTextsReorderedMembers ∧
    ∀ service request,
      Alike ((handle service request).outcome
          { oneRelease with transport := documented twoTexts } [])
        ((handle service request).outcome
          { oneRelease with transport := documented twoTextsReordered } []) := by
  have reordered : Catalog.Reordered twoTextsMembers twoTextsReorderedMembers :=
    { distinct := by decide
      releases := .swap _ _ []
      latest := rfl }
  -- Each document is read as it stands.
  have isFirst : Catalog.membersOf 100 (documented twoTexts 0) = .ok twoTextsMembers := by
    with_unfolding_all rfl
  have isSecond : Catalog.membersOf 100 (documented twoTextsReordered 0) =
      .ok twoTextsReorderedMembers := by with_unfolding_all rfl
  exact ⟨reordered, (answers_of_reordered { oneRelease with transport := documented twoTexts }
    (documented twoTextsReordered) [] [] reordered isFirst isSecond).2⟩

end Runs

end Service

end SolcRelease
