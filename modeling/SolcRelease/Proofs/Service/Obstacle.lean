import SolcRelease.Proofs.Json.Unwritable
import SolcRelease.Proofs.Service.Answer
import SolcRelease.Proofs.Service.Document
import SolcRelease.Proofs.Service.Payload

/-!
What keeps a request from an answer: numbers too long, documents that lie too deep, and what cannot
be made out or told.
-/

namespace SolcRelease

namespace Service

/-- A request leads to a range with a text, from its bytecode and by the decoder of the service. -/
structure Infers (service : Service) (world : World) (request : Request) (range : VersionRange)
    (text : Text) : Prop where
  /-- There is a decoder, and it leads from the bytecode of the request to the range. -/
  inferred : ∃ decoder bytecode, service.decoder = some decoder ∧
    Payload.ofRequest world.room.request request = .ok bytecode ∧
    Inference.inferred decoder bytecode world.settings = .ok range
  /-- The range can be written. -/
  written : range.text = .ok text

/-- What keeps a request on a route from any answer, with the fault that leaves the service. -/
inductive Obstacle (service : Service) (request : Request) (world : World) (journal : Journal) :
    Route → Fault → Prop where
  /-- The text in the address has a number with too many digits. -/
  | textTooLong {text : Text} {excess : TooManyDigits}
      (long : Version.read text = .error (.tooManyDigits excess)) :
      Obstacle service request world journal (.compiler text) (.tooManyDigits excess)
  /-- What is delivered in place of the catalog for the text in the address cannot be made out. -/
  | compilerUnreadable {text : Text} {version : Version} {fault : Fault}
      (read : Version.read text = .ok version)
      (unreadable : Catalog.IsUnreadable world.room.catalog
        (world.transport journal.inquiries.length) fault) :
      Obstacle service request world journal (.compiler text) fault
  /-- What is delivered in place of the catalog for the latest release cannot be made out. -/
  | latestUnreadable {fault : Fault}
      (unreadable : Catalog.IsUnreadable world.room.catalog
        (world.transport journal.inquiries.length) fault) :
      Obstacle service request world journal .latestCompiler fault
  /-- The latest release of the catalog has a number with too many digits. -/
  | latestTooLong {catalog : Catalog} {excess : TooManyDigits}
      (fetched : nextCatalog world journal = .ok catalog)
      (long : Version.read catalog.latest = .error (.tooManyDigits excess)) :
      Obstacle service request world journal .latestCompiler (.tooManyDigits excess)
  /-- The document of the request lies too deep. -/
  | payloadTooDeep {decoder : Decoder} {enclosure : Json.Enclosure}
      (configured : service.decoder = some decoder)
      (deep : Payload.IsTooDeep world.room.request request enclosure) :
      Obstacle service request world journal .inference (.documentTooDeep enclosure)
  /-- A bound that the inference needs has a number with too many digits. -/
  | boundTooLong {decoder : Decoder} {bytecode : Bytes} {bound : Bound} {text : Text}
      {excess : TooManyDigits} (configured : service.decoder = some decoder)
      (carried : Payload.ofRequest world.room.request request = .ok bytecode)
      (needs : Inference.Needs decoder bytecode world.settings bound)
      (isText : bound.IsConfigured world.settings text)
      (long : Version.read text = .error (.tooManyDigits excess)) :
      Obstacle service request world journal .inference (.tooManyDigits excess)
  /-- What is delivered in place of the catalog for the candidates cannot be made out. -/
  | candidatesUnreadable {range : VersionRange} {text : Text} {fault : Fault}
      (infers : Infers service world request range text)
      (wanted : wantsCandidates (Target.ofAddress request.address) = true)
      (unreadable : Catalog.IsUnreadable world.room.catalog
        (world.transport journal.inquiries.length) fault) :
      Obstacle service request world journal .inference fault
  /-- An entry of the catalog that counts as a candidate has a key with too many digits. -/
  | keyTooLong {range : VersionRange} {text : Text} {catalog : Catalog} {excess : TooManyDigits}
      (infers : Infers service world request range text)
      (wanted : wantsCandidates (Target.ofAddress request.address) = true)
      (fetched : nextCatalog world journal = .ok catalog)
      (long : Catalog.firstExcess? catalog.releases = some excess) :
      Obstacle service request world journal .inference (.tooManyDigits excess)
  /-- The route comes to a refusal whose details are nothing that JSON has a place for. -/
  | detailsForeign {route : Route} {activity : Activity Json} {cause : Refusal} {fault : Fault}
      (leads : service.documentOf (Target.ofAddress request.address) request route = some activity)
      (refused : activity.outcome world journal = .error (.refusal cause))
      (foreign : cause.details = .foreign fault) :
      Obstacle service request world journal route fault
  /-- It comes to one whose body cannot be written for an integer with too many digits. -/
  | bodyTooLong {route : Route} {activity : Activity Json} {cause : Refusal} {body : Json}
      (leads : service.documentOf (Target.ofAddress request.address) request route = some activity)
      (refused : activity.outcome world journal = .error (.refusal cause))
      (isBody : cause.body = .ok body) (stops : Json.Stops world.room.answer body .tooManyDigits) :
      Obstacle service request world journal route (.tooManyDigits .writing)
  /-- It comes to one whose body cannot be written for an enclosure that lies too deep. -/
  | bodyTooDeep {route : Route} {activity : Activity Json} {cause : Refusal} {body : Json}
      (leads : service.documentOf (Target.ofAddress request.address) request route = some activity)
      (refused : activity.outcome world journal = .error (.refusal cause))
      (isBody : cause.body = .ok body) (stops : Json.Stops world.room.answer body .tooDeep) :
      Obstacle service request world journal route .answerTooDeep

variable {service : Service} {request : Request} {world : World} {journal : Journal}

/-- The body of a refusal that cannot be written is an obstacle, whatever keeps it from that. -/
theorem obstacle_of_unwritable {route : Route} {activity : Activity Json} {cause : Refusal}
    {body : Json} {failure : Json.WriteFailure}
    (leads : service.documentOf (Target.ofAddress request.address) request route = some activity)
    (refused : activity.outcome world journal = .error (.refusal cause))
    (isBody : cause.body = .ok body)
    (stuck : Json.unwritable? world.room.answer body = some failure) :
    Obstacle service request world journal route (unsent failure) := by
  have stops := Json.unwritable?_eq_some_iff.mp stuck
  cases failure with
  | tooManyDigits => exact .bodyTooLong leads refused isBody stops
  | tooDeep => exact .bodyTooDeep leads refused isBody stops

/-- Once a range is inferred, only the candidates are missing from the document. -/
theorem outcome_inference_of_infers {range : VersionRange} {text : Text}
    (infers : Infers service world request range text) :
    (service.inference (Target.ofAddress request.address) request).outcome world journal =
      foundTexts (wantsCandidates (Target.ofAddress request.address)) range
        (nextCatalog world journal) >>= fun found => .ok (inferenceDocument range text found) := by
  obtain ⟨⟨decoder, bytecode, configured, carried, inferred⟩, written⟩ := infers
  -- The bytecode, the range and its text are there; what is left are the candidates.
  rw [outcome_inference world journal configured, carried, Outcome.ok_bind, inferred,
    Outcome.ok_bind, written]
  rfl

section Accounts

variable {version : Version} {catalog : Catalog} {blocked : Fault → Prop}

/-- A compiler's document can be written. -/
theorem unwritable?_compilerDocument (room : Room) (version build : Text) :
    Json.unwritable? room.answer (compilerDocument version build) = none :=
  Json.unwritable?_eq_none_of_le room.answer_least rfl

/-- The document of a version that was read is that of its own text. -/
theorem documentOfVersion_of_fits (fits : version.Fits) (source : Except Failure Catalog) :
    documentOfVersion source version = source >>= fun catalog =>
      catalog.identifierOf version.written >>= fun build =>
        .ok (compilerDocument version.written build) := by
  -- Written, the version is read back, so neither step can fail.
  have text := Version.text_eq_ok_iff.mpr ⟨fits, rfl⟩
  have again := Version.ofText_eq_ok_iff.mpr (Version.read_written fits)
  simp only [documentOfVersion, text, Failure.ofWriting, again, Outcome.ok_bind]

/-- The document of the latest compiler is that of the version which the catalog names. -/
theorem latestDocument_of_read (read : Version.read catalog.latest = .ok version) :
    latestDocument catalog = documentOfVersion (.ok catalog) version := by
  -- Both look the written version up, once it is known to be one.
  simp only [latestDocument, documentOfVersion, Catalog.latestVersion, read, Catalog.resolution,
    Outcome.ok_bind, bind_assoc]

end Accounts

end Service

end SolcRelease
