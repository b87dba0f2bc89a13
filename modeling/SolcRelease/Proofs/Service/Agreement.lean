import SolcRelease.Proofs.Catalog.Coherence
import SolcRelease.Proofs.Service.Address
import SolcRelease.Proofs.Service.Obstacle

/-!
The two routes to a compiler: asked for the latest compiler and asked for the version of that one,
the service gives the same answer.
-/

namespace SolcRelease

namespace Service

variable {service : Service} {request : Request} {catalog : Catalog} {version : Version}
  {world : World} {journal : Journal}

/-- What a request gets to see of an answer, which is the announcement if it asks for no more. -/
def seenBy (request : Request) (answer : Answer) : Answer :=
  if request.method = "HEAD" then answer.announcedOnly else answer

/-- The body of the answer about a release that is missing, which tells of its version. -/
def missingBody (text : Text) : Json :=
  (Refusal.releaseMissing text).bodyWith (.object [("version", .string text)])

/-- The answer about the compiler of a version, by the build under its text in a catalog. -/
def compilerAnswer (catalog : Catalog) (text : Text) : Answer :=
  match catalog.build? text with
  | some build => .document 200 (compilerDocument text (BuildName.identifier build))
  | none => .document 404 (missingBody text)

/-- A version that fits is answered by its build in the catalog that is fetched. -/
theorem answered_documentOfVersion (room : Room) (fits : version.Fits) :
    answered room (documentOfVersion (.ok catalog) version) =
      .ok (compilerAnswer catalog version.written) := by
  rw [documentOfVersion_of_fits fits, Outcome.ok_bind, Catalog.identifierOf, compilerAnswer]
  cases catalog.build? version.written with
  | some build => exact sent_of_writable 200 (unwritable?_compilerDocument room _ _)
  | none =>
    -- The body of the refusal is an object in another one, for which there is always room.
    exact answered_shallow room rfl rfl

/-- The route of the latest compiler answers about the version that the catalog names. -/
theorem outcome_handle_latest (read : Version.read catalog.latest = .ok version)
    (fetched : nextCatalog world journal = .ok catalog)
    (reads : Reads request "/api/compilers/latest") :
    (service.handle request).outcome world journal =
      .ok (seenBy request (compilerAnswer catalog version.written)) := by
  -- What was read fits, so it is written and looked up without a failure on the way.
  rw [outcome_handle_of_leads world journal (taken_latestCompiler_iff.mpr reads) rfl,
    outcome_latestCompiler, fetched, Outcome.ok_bind, latestDocument_of_read read,
    answered_documentOfVersion world.room (Version.fits_of_read read)]
  rfl

/-- The text of a version is a segment of a path, and not the one of the latest compiler. -/
theorem segment_written (version : Version) :
    version.written ≠ [] ∧ .char '/' ∉ version.written ∧ version.written ≠ "latest" := by
  have dotted : .char '.' ∈ version.written := by simp [Version.written]
  -- A written version has digits and dots only.
  have other (c : CodePoint) (sign : c.isDigit = false ∧ c ≠ '.') : c ∉ version.written := by
    intro member
    rcases Version.digit_or_dot_of_mem_written member with digit | dot
    · rw [sign.1] at digit
      cases digit
    · exact sign.2 dot
  refine ⟨List.ne_nil_of_mem dotted, other '/' (by decide), fun same => ?_⟩
  have letter : .char 'l' ∈ version.written := by
    rw [same]
    decide
  exact other 'l' (by decide) letter

/-- The route of a version's compiler answers about the version that its text denotes. -/
theorem outcome_handle_compiler {text : Text} (denotes : Version.ofText text = .ok version)
    (segment : text ≠ [] ∧ .char '/' ∉ text ∧ text ≠ "latest")
    (fetched : nextCatalog world journal = .ok catalog)
    (reads : Reads request (("/api/compilers/" : Text) ++ text)) :
    (service.handle request).outcome world journal =
      .ok (seenBy request (compilerAnswer catalog version.written)) := by
  have fits := Version.fits_of_read (Version.ofText_eq_ok_iff.mp denotes)
  -- From here on the version counts, and no longer the text that it was read from.
  rw [outcome_handle_of_leads world journal (taken_compiler_iff.mpr ⟨reads, segment⟩) rfl,
    outcome_compiler, denotes, Outcome.ok_bind, fetched,
    answered_documentOfVersion world.room fits]
  rfl

/-- A fetch comes to the same catalog wherever the same is delivered. -/
theorem nextCatalog_of_delivered {other : World} {later : Journal}
    (fetched : (Catalog.fetch none none).outcome world journal = .ok catalog)
    (sameRoom : other.room.catalog = world.room.catalog)
    (sameDelivery : other.transport later.inquiries.length =
      world.transport journal.inquiries.length) :
    nextCatalog other later = .ok catalog := by
  rw [Catalog.outcome_fetch, Catalog.delivered_eq_ok_iff] at fetched
  -- The address that was asked has a part in refusals only.
  rw [nextCatalog, sameRoom, sameDelivery, Catalog.delivered_eq_ok_iff]
  exact fetched

/--
Where a catalog is delivered whose latest release is a version, the text of that version has an
address of its own, and a request that reads it gets the answer that a request for the latest
compiler gets: the version with its build, or that the release is missing. A version with a build
is among the releases that the catalog lists.
-/
theorem compiler_routes_agree (service : Service) (world other : World) (journal later : Journal)
    (fetched : (Catalog.fetch none none).outcome world journal = .ok catalog)
    (isLatest : Version.ofText catalog.latest = .ok version)
    (sameRoom : other.room.catalog = world.room.catalog)
    (sameDelivery : other.transport later.inquiries.length =
      world.transport journal.inquiries.length) :
    ∃ text answer, version.text = .ok text ∧
      (∀ contentType body, Reads ⟨"GET", ("/api/compilers/" : Text) ++ text, contentType, body⟩
        (("/api/compilers/" : Text) ++ text)) ∧
      (∀ request, Reads request "/api/compilers/latest" →
        (service.handle request).outcome world journal = .ok (seenBy request answer)) ∧
      (∀ request, Reads request (("/api/compilers/" : Text) ++ text) →
        (service.handle request).outcome other later = .ok (seenBy request answer)) ∧
      ((∃ build, answer = .document 200 (compilerDocument text build) ∧
          ∀ elsewhere whenever versions,
            (Catalog.listReleases (some catalog)).outcome elsewhere whenever = .ok versions →
              version ∈ versions) ∨
        ∃ body, answer = .document 404 body ∧
          (Refusal.releaseMissing text).body = .ok body) := by
  have read := Version.ofText_eq_ok_iff.mp isLatest
  have fits := Version.fits_of_read read
  have again := Version.ofText_eq_ok_iff.mpr (Version.read_written fits)
  have here := nextCatalog_of_delivered fetched rfl rfl
  have there := nextCatalog_of_delivered fetched sameRoom sameDelivery
  refine ⟨version.written, compilerAnswer catalog version.written,
    Version.text_eq_ok_iff.mpr ⟨fits, rfl⟩, reads_of_isPlain (isPlain_compilers version),
    fun request => outcome_handle_latest read here,
    fun request => outcome_handle_compiler again (segment_written version) there, ?_⟩
  -- Either way it is the text of the version that is looked up in the catalog.
  unfold compilerAnswer
  cases named : catalog.build? version.written with
  | some build =>
    exact Or.inl ⟨_, rfl, fun elsewhere whenever versions => Catalog.mem_of_build? fits named⟩
  | none => exact Or.inr ⟨_, rfl, rfl⟩

/-- A catalog whose latest release is written with a zero too many. -/
def paddedLatest : Catalog :=
  ⟨[("0.4.6", "v0.4.6")], "0.04.6"⟩

/-- A world in which that catalog is delivered. -/
def paddedWorld : World :=
  { oneRelease with
    transport := fun _ => .response (.ofUtf8 200 (Utf8.encode
      "\x7b\"releases\":\x7b\"0.4.6\":\"v0.4.6\"\x7d,\"latestRelease\":\"0.04.6\"\x7d")) }

/-- A request for the latest compiler. -/
def latestOne : Request :=
  ⟨"GET", "/api/compilers/latest", none, []⟩

/-- The latest release is looked up without the zero, like the version that is asked for. -/
theorem compiler_routes_agree_padded :
    ∃ answer, (metadataless.handle latestOne).outcome paddedWorld [] = .ok answer ∧
      (metadataless.handle oneCompiler).outcome paddedWorld [Catalog.asked Settings.unset] =
        .ok answer := by
  have fetched : (Catalog.fetch none none).outcome paddedWorld [] = .ok paddedLatest :=
    Outcome.eq_ok_of_toOption (by decide +kernel)
  have isLatest : Version.ofText paddedLatest.latest = .ok ⟨0, 4, 6⟩ :=
    Version.ofText_eq_ok_iff.mpr (by decide)
  obtain ⟨text, answer, written, plain, latest, asked, -⟩ :=
    compiler_routes_agree metadataless paddedWorld paddedWorld [] [Catalog.asked Settings.unset]
      fetched isLatest rfl rfl
  obtain ⟨-, rfl⟩ := Version.text_eq_ok_iff.mp written
  -- Both requests are made with plain addresses.
  have address : ("/api/compilers/" : Text) ++ (⟨0, 4, 6⟩ : Version).written =
      "/api/compilers/0.4.6" := by decide
  rw [address] at plain asked
  have first : Reads latestOne "/api/compilers/latest" :=
    reads_of_isPlain ⟨⟨("api/compilers/latest" : Text), rfl, by decide⟩, by decide⟩ none []
  exact ⟨answer, latest latestOne first, asked oneCompiler (plain none [])⟩

end Service

end SolcRelease
