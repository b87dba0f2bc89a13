import SolcRelease.Proofs.Catalog.Fetch
import SolcRelease.Proofs.Catalog.Listing
import SolcRelease.Proofs.Catalog.Lookup
import SolcRelease.Proofs.Inference
import SolcRelease.Service.Basic

/-! What the routes to compilers and to inference come to, as functions of the next delivery. -/

namespace SolcRelease

namespace Service

/-- What the next delivery of the transport comes to. -/
def nextCatalog (world : World) (journal : Journal) : Except Failure Catalog :=
  Catalog.delivered (Catalog.urlOf world.settings) world.room.catalog
    (world.transport journal.inquiries.length)

section Compilers

/-- The document of the latest compiler in a catalog. -/
def latestDocument (catalog : Catalog) : Except Failure Json := do
  let latest ← catalog.latestVersion
  let text ← Failure.ofWriting latest.text
  let build ← catalog.resolution text
  .ok (compilerDocument text build)

/-- The document of the compiler of a version in what a delivery comes to. -/
def documentOfVersion (catalog : Except Failure Catalog) (version : Version) :
    Except Failure Json := do
  let text ← Failure.ofWriting version.text
  let _ ← Version.ofText text
  let catalog ← catalog
  let build ← catalog.identifierOf text
  .ok (compilerDocument text build)

variable (world : World) (journal : Journal)

/-- The route of the latest compiler comes to its document in the next catalog. -/
theorem outcome_latestCompiler :
    latestCompiler.outcome world journal = nextCatalog world journal >>= latestDocument := by
  -- The version is looked up in the catalog that it was taken from, so nothing else is fetched.
  simp only [latestCompiler, Catalog.latestRelease, nextCatalog, Activity.outcome_bind,
    Catalog.outcome_fetch, Catalog.outcome_orFetched_some, Activity.outcome_ofOutcome,
    Activity.outcome_ofWriting, Catalog.outcome_resolve, Activity.outcome_pure, Outcome.ok_bind,
    Option.getD_none]
  rfl

/-- The route of a version's compiler comes to its document, once the text is a version. -/
theorem outcome_compiler (text : Text) :
    (compiler text).outcome world journal =
      Version.ofText text >>= documentOfVersion (nextCatalog world journal) := by
  -- Neither the check of the text nor the writing of it asks for anything.
  simp only [compiler, Catalog.resolve, Catalog.orFetched, nextCatalog, Activity.outcome_bind,
    Catalog.outcome_fetch, Activity.outcome_ofOutcome, Activity.outcome_ofWriting,
    Activity.outcome_pure, Activity.after_ofOutcome, Activity.after_ofWriting, Option.getD_none,
    bind_assoc]
  rfl

end Compilers

section Inference

/-- The texts of the releases of a catalog in a range, in ascending order. -/
def releaseTexts (range : VersionRange) (catalog : Catalog) : Except Failure (List Text) := do
  let versions ← Catalog.listing catalog.releases
  Failure.ofWriting (textsOf ((Version.sorted versions).filter range.contains))

/-- The texts of the releases in a range, if they are wanted. -/
def foundTexts (wanted : Bool) (range : VersionRange) (catalog : Except Failure Catalog) :
    Except Failure (Option (List Text)) :=
  if wanted then do
    let texts ← catalog >>= releaseTexts range
    .ok (some texts)
  else .ok none

/-- The document of an inferred range, with the texts of the releases in it if they are wanted. -/
def inferenceDocument (range : VersionRange) (text : Text) (found : Option (List Text)) : Json :=
  .object
    ([Json.named "inferral_kind" (.string range.kind.word), Json.named "range" (.string text)]
      ++ (found.map fun texts => Json.named "candidates" (.array (texts.map Json.string))).toList)

variable (world : World) (journal : Journal)

/-- The candidates are the texts of the releases that the next catalog has in the range. -/
theorem outcome_candidates (wanted : Bool) (range : VersionRange) :
    (candidates wanted range).outcome world journal =
      foundTexts wanted range (nextCatalog world journal) := by
  cases wanted with
  | false => rfl
  | true =>
    simp only [candidates, foundTexts, nextCatalog, if_true, Activity.outcome_bind,
      Catalog.outcome_matchingReleases, Catalog.orFetched, Catalog.outcome_fetch,
      Activity.outcome_ofWriting, Activity.outcome_pure, Option.getD_none, bind_assoc,
      Outcome.ok_bind]
    cases Catalog.delivered _ _ _ with
    | error failure => rfl
    | ok catalog =>
      simp only [Outcome.ok_bind, releaseTexts, bind_assoc]

/-- The route of inference comes to the document of the range that the decoder leads to. -/
theorem outcome_inference {service : Service} {decoder : Decoder}
    (configured : service.decoder = some decoder) (target : Target) (request : Request) :
    (service.inference target request).outcome world journal = (do
      let bytecode ← Payload.ofRequest world.room.request request
      let range ← Inference.inferred decoder bytecode world.settings
      let text ← Failure.ofWriting range.text
      let found ← foundTexts (wantsCandidates target) range (nextCatalog world journal)
      .ok (inferenceDocument range text found)) := by
  simp only [inference, configured, inferenceDocument, Activity.outcome_bind,
    Activity.outcome_room, Activity.outcome_ofOutcome, Inference.outcome_infer,
    Activity.outcome_ofWriting, outcome_candidates, Activity.outcome_log, Activity.outcome_pure,
    Activity.after_ofOutcome, Activity.after_ofWriting, Activity.after_room, Outcome.ok_bind]
  -- The delivery is the next one still, since the inference has not asked for any.
  have same (bytecode : Bytes) :
      nextCatalog world ((Inference.infer decoder bytecode).after world journal) =
        nextCatalog world journal := by
    rw [nextCatalog, Inference.inquiries_infer, nextCatalog]
  simp only [same]

end Inference

section Texts

end Texts

section Sample

/-- A service with a decoder that finds no metadata in any bytecode. -/
def metadataless : Service :=
  ⟨some fun _ => .immediate (.error (.refusal (.undecodable .blockAbsent [] (.json .null)))),
    "0.1.0"⟩

/-- A world without settings in which the catalog has one release. -/
def oneRelease : World :=
  ⟨Settings.unset,
    fun _ => .response (.ofUtf8 200
      (Utf8.encode "\x7b\"releases\":\x7b\"0.4.6\":\"v0.4.6\"\x7d\x7d")),
    .hundred, 0, [], fun _ => false⟩

/-- A request for the range of the empty bytecode, with candidates. -/
def emptyBytecode : Request :=
  ⟨"POST", "/api/infer?candidates=1", some "application/json",
    Utf8.encode "\x7b\"bytecode\":\"0x\"\x7d"⟩

end Sample

end Service

end SolcRelease
