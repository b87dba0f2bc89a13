import SolcRelease.Proofs.Json.Nesting
import SolcRelease.Proofs.Service.Agreement
import SolcRelease.Proofs.Service.Containment

/-!
Requests for the compiler of a text: only the version that the text denotes has a part in the
answer, and what the catalog has under the text of that version.
-/

namespace SolcRelease

namespace Service

/-- A request asks for the compiler of a text that is the last segment of its path. -/
structure AsksFor (request : Request) (text : Text) : Prop where
  /-- The segment is not empty. -/
  filled : text ≠ []
  /-- It is one segment. -/
  single : .char '/' ∉ text
  /-- It is not the one of the latest compiler. -/
  other : text ≠ "latest"
  /-- The request reads the path that ends in it. -/
  reads : Reads request (("/api/compilers/" : Text) ++ text)

/-- A request for the compiler of a text is answered by the version that the text denotes. -/
structure AnswersVersion (service : Service) (request : Request) (world : World)
    (journal : Journal) (text : Text) : Prop where
  /-- What denotes no version is refused as such, before anything is fetched. -/
  malformed : ∀ cause, Version.ofText text = .error (.refusal cause) →
    ∃ body, body.member? "error_code" = some (.string "INVALID_VERSION") ∧
      (service.handle request).outcome world journal =
        .ok (seenBy request (.document 400 body)) ∧
      ((service.handle request).after world journal).inquiries = journal.inquiries
  /-- Without a catalog there is no answer but that. -/
  unavailable : ∀ version failure, Version.ofText text = .ok version →
    (Catalog.fetch none none).outcome world journal = .error failure →
    ∃ body, (service.handle request).outcome world journal =
      .ok (seenBy request (.document 502 body))
  /-- Without a build under the text of the version, that version is missing. -/
  missing : ∀ version catalog key, Version.ofText text = .ok version →
    (Catalog.fetch none none).outcome world journal = .ok catalog → version.text = .ok key →
    (∀ build, Entries.get? catalog.releases key = some build → build = []) →
    ∃ body, body.member? "details" = some (.object [("version", .string key)]) ∧
      (service.handle request).outcome world journal =
        .ok (seenBy request (.document 404 body))
  /-- A build under that text is answered with the text and with the build's identifier. -/
  found : ∀ version catalog key build, Version.ofText text = .ok version →
    (Catalog.fetch none none).outcome world journal = .ok catalog → version.text = .ok key →
    Entries.get? catalog.releases key = some build → build ≠ [] →
    (service.handle request).outcome world journal =
      .ok (seenBy request (.document 200 (compilerDocument key (BuildName.identifier build))))

/-- Wherever a fetch comes to the same, all requests for a version's compiler have one result. -/
structure HasResult (service : Service) (version : Version) (fetched : Except Failure Catalog)
    (result : Except Failure Answer) : Prop where
  /-- Whatever text denotes the version, the result is the same. -/
  asked : ∀ text request world journal, Version.ofText text = .ok version →
    AsksFor request text → (Catalog.fetch none none).outcome world journal = fetched →
    (service.handle request).outcome world journal = result.map (seenBy request)
  /-- The text of the version itself, put into an address as it is, has that result too. -/
  again : ∃ key, version.text = .ok key ∧ ∀ contentType body world journal,
    (Catalog.fetch none none).outcome world journal = fetched →
    (service.handle ⟨"GET", ("/api/compilers/" : Text) ++ key, contentType, body⟩).outcome
      world journal = result

variable {service : Service} {request : Request} {text : Text} {version : Version}
  {world : World} {journal : Journal} {catalog : Catalog}

/-- The route of the compilers takes the requests that ask for one. -/
theorem taken_of_asksFor (asks : AsksFor request text) :
    Dispatch.ofRequest request.method.upperCase (Target.ofAddress request.address).path =
      .taken (.compiler text) :=
  taken_compiler_iff.mpr ⟨asks.reads, asks.filled, asks.single, asks.other⟩

/-- The text of a version asks for its compiler, put into an address as it is. -/
theorem asksFor_written (version : Version) (contentType : Option Text) (body : Bytes) :
    AsksFor ⟨"GET", ("/api/compilers/" : Text) ++ version.written, contentType, body⟩
      version.written := by
  obtain ⟨filled, single, other⟩ := segment_written version
  exact ⟨filled, single, other, reads_of_isPlain (isPlain_compilers version) contentType body⟩

/-- A fetch comes to the next catalog. -/
theorem outcome_fetch_eq_nextCatalog (world : World) (journal : Journal) :
    (Catalog.fetch none none).outcome world journal = nextCatalog world journal :=
  Catalog.outcome_fetch world journal none none

section Requests

variable (world : World) (journal : Journal)

/-- A request for the compiler of a text comes to what the route of the text comes to. -/
theorem outcome_handle_of_asksFor (asks : AsksFor request text) :
    (service.handle request).outcome world journal =
      (answered world.room ((compiler text).outcome world journal)).map (seenBy request) :=
  outcome_handle_of_leads world journal (taken_of_asksFor asks) rfl

/-- Where the text denotes a version, that and the next catalog are all that counts. -/
theorem outcome_handle_of_denotes (asks : AsksFor request text)
    (denotes : Version.ofText text = .ok version) :
    (service.handle request).outcome world journal =
      (answered world.room (documentOfVersion (nextCatalog world journal) version)).map
        (seenBy request) := by
  rw [outcome_handle_of_asksFor world journal asks, outcome_compiler, denotes, Outcome.ok_bind]

end Requests

/-- The details about a catalog that is not there are as deep as the status among them. -/
theorem depth_body_catalogUnavailable {fault : CatalogFault} {url : Text} {body : Json}
    (whole : ∀ status, fault.status? = some status → ∃ number, status = .whole number)
    (isBody : (Refusal.catalogUnavailable fault url).body = .ok body) : body.depth ≤ 2 := by
  have flat : Json.depthOfMembers (fault.details url) = 0 := by
    have status :
        Json.depthOfMembers (fault.status?.map (Json.named "status_code")).toList = 0 := by
      cases told : fault.status? with
      | none => rfl
      | some status =>
        obtain ⟨number, rfl⟩ := whole status told
        rfl
    -- All else are texts, whichever of them there are.
    have body : Json.depthOfMembers
        (fault.body?.map fun body => Json.named "body" (.string body)).toList = 0 := by
      cases fault.body? <;> rfl
    have address : Json.depthOfMembers
        (if url.isEmpty then [] else [Json.named "url" (.string url)]) = 0 := by
      split <;> rfl
    rw [CatalogFault.details, Json.depthOfMembers_append, Json.depthOfMembers_append,
      Json.depthOfMembers_append, status, body, address]
    rfl
  cases isBody
  -- The details are an object in the body, which is an object itself.
  simp only [Refusal.bodyWith, Json.depth, Json.depthOfMembers_append]
  split <;> simp [Json.depthOfMembers, Json.depth, flat]

/-- What a request for a version comes to is answered the same in any room. -/
theorem answered_documentOfVersion_congr (denotes : Version.ofText text = .ok version)
    (proper : ∀ failure, world.transport journal.inquiries.length ≠ .broken failure)
    (room other : Room) :
    answered room (documentOfVersion (nextCatalog world journal) version) =
      answered other (documentOfVersion (nextCatalog world journal) version) := by
  have fits := Version.fits_of_read (Version.ofText_eq_ok_iff.mp denotes)
  rcases Catalog.delivered_cases (Catalog.urlOf world.settings) world.room.catalog proper with
    ⟨catalog, fetched⟩ | ⟨fault, told, refused⟩ | ⟨fault, -, failed⟩
  · rw [nextCatalog, fetched, answered_documentOfVersion room fits,
      answered_documentOfVersion other fits]
  · -- The body of the refusal is flat, since it tells of a status that came with a response.
    rw [nextCatalog, refused, documentOfVersion_of_fits fits, Outcome.error_bind]
    exact answered_congr room other fun body => depth_body_catalogUnavailable
      fun status => Catalog.exists_whole_of_membersOf told
  · rw [nextCatalog, failed, documentOfVersion_of_fits fits]
    rfl

/-- Requests for the compiler of a version have one result for each outcome of a fetch. -/
theorem exists_hasResult (service : Service) (denotes : Version.ofText text = .ok version)
    (proper : ∀ failure, world.transport journal.inquiries.length ≠ .broken failure) :
    ∃ result, HasResult service version ((Catalog.fetch none none).outcome world journal)
      result := by
  obtain ⟨key, written, again⟩ := Version.exists_text_of_ofText denotes
  rw [outcome_fetch_eq_nextCatalog]
  have steady := answered_documentOfVersion_congr denotes proper world.room
  -- The result is made of the version and of what the fetch comes to, and of nothing else.
  refine ⟨answered world.room (documentOfVersion (nextCatalog world journal) version), ?_, key,
    written, ?_⟩
  · intro text request elsewhere later also asks same
    rw [outcome_fetch_eq_nextCatalog] at same
    rw [outcome_handle_of_denotes elsewhere later asks also, same, steady]
  · intro contentType body elsewhere later same
    obtain ⟨-, rfl⟩ := Version.text_eq_ok_iff.mp written
    rw [outcome_fetch_eq_nextCatalog] at same
    rw [outcome_handle_of_denotes elsewhere later (asksFor_written version contentType body) again,
      same, steady elsewhere.room]
    -- Nothing is cut short, since the request is for all there is.
    cases answered elsewhere.room (documentOfVersion (nextCatalog world journal) version) <;> rfl

section Answers

variable {fault : Fault}

/-- On the way to the compiler of a text, an obstacle is what the request comes to. -/
theorem outcome_handle_of_obstacle (asks : AsksFor request text)
    (obstacle : Obstacle service request world journal (.compiler text) fault) :
    (service.handle request).outcome world journal = .error (.fault fault) := by
  rw [outcome_handle_of_leads world journal (taken_of_asksFor asks) rfl,
    answered_of_obstacle rfl obstacle]
  rfl

/-- A text that denotes no version is looked for nowhere. -/
theorem inquiries_handle_of_malformed (asks : AsksFor request text) {failure : Failure}
    (bad : Version.ofText text = .error failure) :
    ((service.handle request).after world journal).inquiries = journal.inquiries := by
  -- The route has no effects at all, and an inquiry would be one of them.
  have nothing : service.effectsOf world request = [] := by
    simp only [effectsOf, taken_of_asksFor asks, compilerEffects, bad]
  have effects := causes_handle service world request journal
  rw [nothing, List.append_nil] at effects
  rw [← Journal.inquiries_effects, effects, Journal.inquiries_effects]

/-- Without an obstacle on its way, a request for a version gets to know of a failed fetch. -/
theorem exists_unavailable (asks : AsksFor request text)
    (denotes : Version.ofText text = .ok version) {failure : Failure}
    (proper : ∀ failure, world.transport journal.inquiries.length ≠ .broken failure)
    (free : ∀ fault, ¬ Obstacle service request world journal (.compiler text) fault)
    (failed : nextCatalog world journal = .error failure) :
    ∃ body, (service.handle request).outcome world journal =
      .ok (seenBy request (.document 502 body)) := by
  have read := Version.ofText_eq_ok_iff.mp denotes
  have came : (compiler text).outcome world journal = .error failure := by
    rw [outcome_compiler, denotes, Outcome.ok_bind,
      documentOfVersion_of_fits (Version.fits_of_read read), failed, Outcome.error_bind]
  -- The fetch fails by a refusal, since what cannot be made out would be an obstacle.
  rcases Catalog.delivered_cases (Catalog.urlOf world.settings) world.room.catalog proper with
    ⟨catalog, fetched⟩ | ⟨fault, -, refused⟩ | ⟨fault, unreadable, -⟩
  · cases failed.symm.trans fetched
  · cases failed.symm.trans refused
    let cause := Refusal.catalogUnavailable fault (Catalog.urlOf world.settings)
    let details := Json.object (fault.details (Catalog.urlOf world.settings))
    -- A body that cannot be sent would be an obstacle.
    have writable : Json.unwritable? world.room.answer (cause.bodyWith details) = none := by
      cases stuck : Json.unwritable? world.room.answer (cause.bodyWith details) with
      | none => rfl
      | some failure => exact absurd (obstacle_of_unwritable rfl came rfl stuck) (free _)
    refine ⟨cause.bodyWith details, ?_⟩
    rw [outcome_handle_of_asksFor world journal asks, came, answered_refusal rfl writable]
    rfl
  · exact absurd (.compilerUnreadable read unreadable) (free _)

/-- Without an obstacle on its way, a request is answered by the version that its text denotes. -/
theorem answersVersion_of_free (asks : AsksFor request text)
    (proper : ∀ failure, world.transport journal.inquiries.length ≠ .broken failure)
    (free : ∀ fault, ¬ Obstacle service request world journal (.compiler text) fault) :
    AnswersVersion service request world journal text where
  malformed := by
    intro cause refused
    -- The refusal has texts for its details, so its body can be sent.
    obtain ⟨flaw, rfl⟩ := Version.exists_flaw_of_ofText refused
    let details := Json.object [("version", .string text), ("reason", .string flaw.reason)]
    refine ⟨(Refusal.invalidVersion text flaw).bodyWith details, rfl, ?_,
      inquiries_handle_of_malformed asks refused⟩
    rw [outcome_handle_of_asksFor world journal asks, outcome_compiler, refused,
      Outcome.error_bind, answered_shallow world.room rfl rfl]
    rfl
  unavailable := by
    intro version failure denotes failed
    rw [outcome_fetch_eq_nextCatalog] at failed
    exact exists_unavailable asks denotes proper free failed
  missing := by
    intro version catalog key denotes fetched written without
    -- What is looked up is the version as it is written.
    obtain ⟨fits, rfl⟩ := Version.text_eq_ok_iff.mp written
    refine ⟨missingBody version.written, rfl, ?_⟩
    rw [outcome_handle_of_denotes world journal asks denotes, ← outcome_fetch_eq_nextCatalog,
      fetched, answered_documentOfVersion world.room fits, compilerAnswer,
      Catalog.build?_eq_none_iff.mpr without]
    rfl
  found := by
    intro version catalog key build denotes fetched written entry filled
    obtain ⟨fits, rfl⟩ := Version.text_eq_ok_iff.mp written
    rw [outcome_handle_of_denotes world journal asks denotes, ← outcome_fetch_eq_nextCatalog,
      fetched, answered_documentOfVersion world.room fits, compilerAnswer,
      Catalog.build?_eq_some_iff.mpr ⟨entry, filled⟩]
    rfl

/-- A request that is answered by a version is answered, whatever the fetch comes to. -/
theorem AnswersVersion.exists_answer (answers : AnswersVersion service request world journal text)
    (short : ∀ excess, Version.ofText text ≠ .error (.fault (.tooManyDigits excess))) :
    ∃ answer, (service.handle request).outcome world journal = .ok answer := by
  -- The four cases of the answer leave out nothing but a number that is too long.
  rcases Version.ofText_cases text with ⟨version, denotes⟩ | ⟨flaw, refused⟩ | ⟨excess, long⟩
  · obtain ⟨key, written, -⟩ := Version.exists_text_of_ofText denotes
    cases fetched : (Catalog.fetch none none).outcome world journal with
    | error failure =>
      obtain ⟨body, came⟩ := answers.unavailable version failure denotes fetched
      exact ⟨_, came⟩
    | ok catalog =>
      -- Under the text of the version there is a build with a name, or there is none.
      cases named : catalog.build? key with
      | some build =>
        obtain ⟨entry, filled⟩ := Catalog.build?_eq_some_iff.mp named
        exact ⟨_, answers.found version catalog key build denotes fetched written entry filled⟩
      | none =>
        have without := Catalog.build?_eq_none_iff.mp named
        obtain ⟨body, -, came⟩ :=
          answers.missing version catalog key denotes fetched written without
        exact ⟨_, came⟩
  · obtain ⟨body, -, came, -⟩ := answers.malformed _ refused
    exact ⟨_, came⟩
  · exact absurd long (short excess)

end Answers

/--
Where no number is too long, a request for the compiler of a text is answered by the version that
the text denotes, unless an obstacle is on its way; and all texts of that version have one result,
its own text among them, wherever the fetch comes to the same.
-/
theorem answersVersion_iff_no_obstacle (service : Service) (asks : AsksFor request text)
    (short : ∀ excess, Version.ofText text ≠ .error (.fault (.tooManyDigits excess)))
    (proper : ∀ failure, world.transport journal.inquiries.length ≠ .broken failure) :
    (AnswersVersion service request world journal text ↔
      ∀ fault, ¬ Obstacle service request world journal (.compiler text) fault) ∧
    ∀ version, Version.ofText text = .ok version →
      ∃ result, HasResult service version ((Catalog.fetch none none).outcome world journal)
        result := by
  refine ⟨⟨?_, answersVersion_of_free asks proper⟩, fun version denotes =>
    exists_hasResult service denotes proper⟩
  intro answers fault obstacle
  obtain ⟨answer, came⟩ := answers.exists_answer short
  -- What stands in the way would have left the service as a fault.
  cases came.symm.trans (outcome_handle_of_obstacle asks obstacle)

/-- A request for the compiler of a version that is written with a zero too many. -/
def paddedCompiler : Request :=
  ⟨"GET", "/api/compilers/0.04.6", none, []⟩

/-- With a zero too many the same version is asked for, and its build is the answer. -/
theorem answersVersion_paddedCompiler :
    (metadataless.handle paddedCompiler).outcome oneRelease [] =
        .ok (.document 200 (compilerDocument "0.4.6" "v0.4.6")) ∧
      (metadataless.handle oneCompiler).outcome oneRelease [] =
        .ok (.document 200 (compilerDocument "0.4.6" "v0.4.6")) := by
  have asks : AsksFor paddedCompiler "0.04.6" := by
    refine ⟨by decide, by decide, by decide, ?_⟩
    exact reads_of_isPlain ⟨⟨("api/compilers/0.04.6" : Text), rfl, by decide⟩, by decide⟩ none []
  have denotes : Version.ofText "0.04.6" = .ok ⟨0, 4, 6⟩ :=
    Version.ofText_eq_ok_iff.mpr (by decide)
  have fetched : (Catalog.fetch none none).outcome oneRelease [] =
      .ok ⟨[("0.4.6", "v0.4.6")], []⟩ := Outcome.eq_ok_of_toOption (by decide +kernel)
  have written : (⟨0, 4, 6⟩ : Version).text = .ok "0.4.6" := by decide
  have short (excess : TooManyDigits) :
      Version.ofText "0.04.6" ≠ .error (.fault (.tooManyDigits excess)) := by
    rw [denotes]
    exact nofun
  have proper (failure : Failure) :
      oneRelease.transport (Journal.inquiries []).length ≠ .broken failure := nofun
  obtain ⟨whenFree, results⟩ := answersVersion_iff_no_obstacle metadataless asks short proper
  -- The text is short enough and the document is a catalog, so nothing is in the way.
  have free (fault : Fault) :
      ¬ Obstacle metadataless paddedCompiler oneRelease [] (.compiler "0.04.6") fault := by
    intro obstacle
    have came := outcome_handle_of_obstacle asks obstacle
    rw [outcome_handle_of_denotes oneRelease [] asks denotes, ← outcome_fetch_eq_nextCatalog,
      fetched, answered_documentOfVersion _ (Version.text_eq_ok_iff.mp written).1] at came
    cases came
  have came := (whenFree.mpr free).found _ _ _ "v0.4.6" denotes fetched written rfl (by decide)
  have identifier : BuildName.identifier "v0.4.6" = "v0.4.6" := by decide
  rw [identifier] at came
  obtain ⟨result, asked, key, same, again⟩ := results _ denotes
  cases written.symm.trans same
  have whole : result.map (seenBy paddedCompiler) = result := by
    cases result <;> rfl
  have first := (asked _ _ _ _ denotes asks rfl).trans whole
  exact ⟨came, (again none [] oneRelease [] rfl).trans (first.symm.trans came)⟩

/-- Whatever room the reader has, a document with one bracket more than that is unreadable. -/
theorem isUnreadable_brackets (room : Nat) :
    Catalog.IsUnreadable room (.response (.ofUtf8 200 (Utf8.encode (Json.brackets (room + 1)))))
      (.documentTooDeep .array) := by
  -- Brackets are characters of ASCII, so they are read from their bytes as they are.
  have ascii : Utf8.IsAscii (Json.brackets (room + 1)) := by
    intro c member
    rw [List.eq_of_mem_replicate member]
    decide
  refine .tooDeep (Response.not_fails_ofUtf8 _) rfl ?_
  rw [Utf8.decodeLenient_encode ascii]
  exact Json.read_brackets room

/-- A world in which the catalog has more brackets than there is room for. -/
def bracketsOnly : World :=
  { oneRelease with
    transport := fun _ => .response
      (.ofUtf8 200 (Utf8.encode (Json.brackets (oneRelease.room.catalog + 1)))) }

/-- A catalog that lies too deep leaves a request for a version without any answer. -/
theorem not_answersVersion_bracketsOnly :
    AsksFor oneCompiler "0.4.6" ∧ Version.ofText "0.4.6" = .ok ⟨0, 4, 6⟩ ∧
      ¬ AnswersVersion metadataless oneCompiler bracketsOnly [] "0.4.6" := by
  have denotes : Version.ofText "0.4.6" = .ok ⟨0, 4, 6⟩ :=
    Version.ofText_eq_ok_iff.mpr (by decide)
  have asks : AsksFor oneCompiler "0.4.6" := asksFor_written ⟨0, 4, 6⟩ none []
  have deep : Catalog.IsUnreadable bracketsOnly.room.catalog (bracketsOnly.transport 0)
      (.documentTooDeep .array) := isUnreadable_brackets oneRelease.room.catalog
  have failed : (Catalog.fetch none none).outcome bracketsOnly [] =
      .error (.fault (.documentTooDeep .array)) := by
    rw [outcome_fetch_eq_nextCatalog]
    exact Catalog.delivered_of_isUnreadable deep
  have obstacle : Obstacle metadataless oneCompiler bracketsOnly [] (.compiler "0.4.6")
      (.documentTooDeep .array) := .compilerUnreadable (Version.ofText_eq_ok_iff.mp denotes) deep
  refine ⟨asks, denotes, fun answers => ?_⟩
  -- The fetch has failed, and what comes of it is no answer but the fault itself.
  obtain ⟨body, came⟩ := answers.unavailable _ _ denotes failed
  cases came.symm.trans (outcome_handle_of_obstacle asks obstacle)

end Service

end SolcRelease
