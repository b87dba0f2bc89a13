import SolcRelease.Proofs.Service.Answer
import SolcRelease.Proofs.Service.Document
import SolcRelease.Proofs.Service.Effects
import SolcRelease.Proofs.Service.Payload

/-!
Sessions: what each request of a session does to the world outside, and which delivery of the
transport it gets to see.
-/

namespace SolcRelease

/-- A world like another, except that every inquiry gets the same delivery. -/
def World.delivering (world : World) (delivery : Delivery) : World :=
  { world with transport := fun _ => delivery }

namespace Service

section Warranted

/-- A request reads a path, with or without the content that it leads to. -/
def Reads (request : Request) (path : Text) : Prop :=
  (request.method.upperCase = "GET" ∨ request.method.upperCase = "HEAD") ∧
    Dispatch.rooted (Target.ofAddress request.address).path = path

/-- A request posts to a path. -/
def Posts (request : Request) (path : Text) : Prop :=
  request.method.upperCase = "POST" ∧
    Dispatch.rooted (Target.ofAddress request.address).path = path

/-- A bytecode leads to a range that can be written. -/
def HasRange (decoder : Decoder) (bytecode : Bytes) (world : World) : Prop :=
  ∃ range text, (∀ journal, (Inference.infer decoder bytecode).outcome world journal = .ok range) ∧
    range.text = .ok text

/-- The effects that a request to a service may have in a world, which are those it must have. -/
structure Warrants (service : Service) (world : World) (request : Request) (effects : Journal) :
    Prop where
  /-- The latest compiler takes one fetch. -/
  latest : Reads request "/api/compilers/latest" → effects = [Catalog.asked world.settings]
  /-- Any other compiler takes one fetch if the text denotes a version, and none otherwise. -/
  compiler : ∀ text, text ≠ [] → .char '/' ∉ text → text ≠ "latest" →
    Reads request (("/api/compilers/" : Text) ++ text) →
      ((∃ version, Version.ofText text = .ok version) →
        effects = [Catalog.asked world.settings]) ∧
      ((∀ version, Version.ofText text ≠ .ok version) → effects = [])
  /-- Inference gives the decoder the bytecode, and fetches if there is a range to compare with. -/
  inference : Posts request "/api/infer" → ∀ decoder bytecode, service.decoder = some decoder →
    Payload.Carries world.room.request request bytecode →
      (HasRange decoder bytecode world ∧
          (Target.ofAddress request.address).field? "candidates" = some ("1" : Text) →
        effects = [.decoded bytecode, Catalog.asked world.settings]) ∧
      (¬ (HasRange decoder bytecode world ∧
          (Target.ofAddress request.address).field? "candidates" = some ("1" : Text)) →
        effects = [.decoded bytecode])
  /-- Without a decoder or without bytecode there is nothing to be done for inference. -/
  unable : Posts request "/api/infer" →
    (service.decoder = none ∨ ∀ bytecode, ¬ Payload.Carries world.room.request request bytecode) →
      effects = []
  /-- No other request reaches the world outside. -/
  other :
    (∀ text : Text, text ≠ [] → .char '/' ∉ text →
      ¬ Reads request (("/api/compilers/" : Text) ++ text)) →
    ¬ Posts request "/api/infer" → effects = []

variable {service : Service} {world : World} {request : Request} {decoder : Decoder}
  {bytecode : Bytes}

/-- The route of the latest compiler takes what reads its path. -/
theorem taken_latestCompiler_iff :
    Dispatch.ofRequest request.method.upperCase (Target.ofAddress request.address).path =
      .taken .latestCompiler ↔ Reads request "/api/compilers/latest" := by
  have other : Route.latestCompiler ≠ .inference := nofun
  rw [Dispatch.ofRequest_eq_taken_iff_reads other, Route.ofPath?_eq_latestCompiler_iff, Reads]

/-- The route of a version's compiler takes what reads one of its paths. -/
theorem taken_compiler_iff {text : Text} :
    Dispatch.ofRequest request.method.upperCase (Target.ofAddress request.address).path =
      .taken (.compiler text) ↔
    Reads request (("/api/compilers/" : Text) ++ text) ∧ text ≠ [] ∧ .char '/' ∉ text ∧
      text ≠ "latest" := by
  have other : Route.compiler text ≠ .inference := nofun
  rw [Dispatch.ofRequest_eq_taken_iff_reads other, Route.ofPath?_eq_compiler_iff, Reads, and_assoc]

/-- A bytecode leads to a range that can be written if the one that is inferred can be. -/
theorem hasRange_iff :
    HasRange decoder bytecode world ↔
      ∃ range text, Inference.inferred decoder bytecode world.settings = .ok range ∧
        range.text = .ok text := by
  simp only [HasRange, Inference.outcome_infer, forall_const]

/-- With such a range the effects of decoding go on to the candidates, if they are wanted. -/
theorem decodingEffects_of_hasRange (ranged : HasRange decoder bytecode world) (wanted : Bool) :
    decodingEffects decoder bytecode world.settings wanted =
      .decoded bytecode :: candidatesEffects world.settings wanted := by
  obtain ⟨range, text, found, written⟩ := hasRange_iff.mp ranged
  simp only [decodingEffects, found, written]

/-- Without such a range the effects of decoding end with it. -/
theorem decodingEffects_of_not_hasRange (rangeless : ¬ HasRange decoder bytecode world)
    (wanted : Bool) :
    decodingEffects decoder bytecode world.settings wanted = [.decoded bytecode] := by
  unfold decodingEffects
  -- Either no range is inferred, or the one that is cannot be written.
  cases found : Inference.inferred decoder bytecode world.settings with
  | error failure => rfl
  | ok range =>
    dsimp only
    cases written : range.text with
    | error excess => rfl
    | ok text => exact absurd (hasRange_iff.mpr ⟨range, text, found, written⟩) rangeless

/-- The effects of a request are those that it must have. -/
theorem warrants_effectsOf (service : Service) (world : World) (request : Request) :
    Warrants service world request (service.effectsOf world request) where
  latest := by
    intro reads
    simp only [effectsOf, taken_latestCompiler_iff.mpr reads]
  compiler := by
    intro text nonempty plain notLatest reads
    simp only [effectsOf, taken_compiler_iff.mpr ⟨reads, nonempty, plain, notLatest⟩,
      compilerEffects]
    -- Whether the text denotes a version is all that the route looks at.
    constructor
    · rintro ⟨version, found⟩
      rw [found]
    · intro none
      cases found : Version.ofText text with
      | ok version => exact absurd found (none version)
      | error failure => rfl
  inference := by
    intro posts decoder bytecode configured carries
    have carried := Payload.ofRequest_eq_ok_iff.mpr carries
    simp only [effectsOf, Dispatch.ofRequest_eq_taken_inference_iff.mpr posts, inferenceEffects,
      configured, carried]
    constructor
    · -- The candidates come after a range that can be written.
      rintro ⟨ranged, wanted⟩
      rw [decodingEffects_of_hasRange ranged]
      simp [wantsCandidates, wanted, candidatesEffects]
    · intro lacking
      by_cases ranged : HasRange decoder bytecode world
      · -- With a range it is the candidates that are not wanted.
        have unwanted : wantsCandidates (Target.ofAddress request.address) = false := by
          simpa [wantsCandidates] using fun wanted => lacking ⟨ranged, wanted⟩
        rw [decodingEffects_of_hasRange ranged, unwanted]
        rfl
      · exact decodingEffects_of_not_hasRange ranged _
  unable := by
    intro posts either
    simp only [effectsOf, Dispatch.ofRequest_eq_taken_inference_iff.mpr posts, inferenceEffects]
    rcases either with missing | none
    · rw [missing]
    · -- What is not carried is not read either.
      cases service.decoder with
      | none => rfl
      | some decoder =>
        cases found : Payload.ofRequest world.room.request request with
        | ok bytecode => exact absurd (Payload.ofRequest_eq_ok_iff.mp found) (none bytecode)
        | error failure => rfl
  other := by
    intro noCompiler noInference
    simp only [effectsOf]
    -- Each route with effects has been ruled out by its path or by its method.
    split
    · rename_i taken
      exact absurd (taken_latestCompiler_iff.mp taken) (noCompiler "latest" (by decide) (by decide))
    · rename_i text taken
      obtain ⟨reads, nonempty, plain, -⟩ := taken_compiler_iff.mp taken
      exact absurd reads (noCompiler text nonempty plain)
    · rename_i taken
      exact absurd (Dispatch.ofRequest_eq_taken_inference_iff.mp taken) noInference
    · rfl

end Warranted

section Seen

variable {service : Service} {world : World} {request : Request} {route : Route}
  {activity : Activity Json} {delivery : Delivery} {journal : Journal}

/-- Tells whether a request asks for the catalog. -/
def fetches (service : Service) (world : World) (request : Request) : Bool :=
  !(service.effectsOf world request).inquiries.isEmpty

/-- Inference from a bytecode asks for the catalog at most once, for the candidates. -/
theorem length_inquiries_decodingEffects (decoder : Decoder) (bytecode : Bytes)
    (settings : Settings) (wanted : Bool) :
    (decodingEffects decoder bytecode settings wanted).inquiries.length ≤ 1 := by
  have forCandidates : (candidatesEffects settings wanted).inquiries.length ≤ 1 := by
    cases wanted with
    | false => exact Nat.zero_le 1
    | true => exact Nat.le_refl 1
  unfold decodingEffects
  -- The decoding is no inquiry, and where there is no range nothing comes after it.
  split
  · exact Nat.zero_le 1
  · split
    · exact Nat.zero_le 1
    · exact forCandidates

/-- A request asks for the catalog once or not at all. -/
theorem length_inquiries_effectsOf (service : Service) (world : World) (request : Request) :
    (service.effectsOf world request).inquiries.length =
      if service.fetches world request then 1 else 0 := by
  have atMostOne : (service.effectsOf world request).inquiries.length ≤ 1 := by
    simp only [effectsOf]
    -- The cases are those of the routes, and all pages together are the last of them.
    split
    · exact Nat.le_refl 1
    · unfold compilerEffects
      split
      · exact Nat.le_refl 1
      · exact Nat.zero_le 1
    · unfold inferenceEffects
      split
      · exact length_inquiries_decodingEffects _ _ _ _
      · exact Nat.zero_le 1
    · exact Nat.zero_le 1
  rw [fetches]
  cases found : (service.effectsOf world request).inquiries with
  | nil => rfl
  | cons inquiry rest =>
    -- There is no second inquiry after the first.
    rw [found, List.length_cons] at atMostOne
    have alone : rest = [] := List.length_eq_zero_iff.mp (by omega)
    rw [alone]
    rfl

/-- The next delivery is all that the transport has to do with the next catalog. -/
theorem nextCatalog_delivering (same : delivery = world.transport journal.inquiries.length)
    (elsewhere : Journal) :
    nextCatalog world journal = nextCatalog (world.delivering delivery) elsewhere := by
  rw [same]
  rfl

/-- Inference comes to the same with any delivery, unless it asks for candidates. -/
theorem outcome_inference_delivering {decoder : Decoder} (target : Target)
    (configured : service.decoder = some decoder)
    (seen : (service.inferenceEffects world target request).inquiries.isEmpty = false →
      delivery = world.transport journal.inquiries.length) (elsewhere : Journal) :
    (service.inference target request).outcome world journal =
      (service.inference target request).outcome (world.delivering delivery) elsewhere := by
  have sameSettings : (world.delivering delivery).settings = world.settings := rfl
  have sameRoom : (world.delivering delivery).room = world.room := rfl
  rw [outcome_inference _ _ configured, outcome_inference _ _ configured, sameSettings,
    sameRoom]
  -- Each step on the way may be the last, and only after all of them is there a fetch.
  cases carried : Payload.ofRequest world.room.request request with
  | error failure => simp only [Outcome.error_bind]
  | ok bytecode =>
    cases found : Inference.inferred decoder bytecode world.settings with
    | error failure => simp only [Outcome.ok_bind, Outcome.error_bind, found]
    | ok range =>
      cases written : range.text with
      | error excess =>
        simp only [Outcome.ok_bind, Outcome.error_bind, found, written, Failure.ofWriting]
      | ok text =>
        simp only [Outcome.ok_bind, found, written, Failure.ofWriting]
        cases wanted : wantsCandidates target with
        | false => simp only [foundTexts, Bool.false_eq_true, if_false]
        | true =>
          -- The candidates are wanted, so the delivery is the one that the fetch gets.
          simp only [inferenceEffects, decodingEffects, configured, carried, found, written,
            wanted] at seen
          rw [nextCatalog_delivering (seen rfl) elsewhere]

/-- A route comes to the same with any delivery, unless it fetches and gets another one. -/
theorem outcome_of_leads_delivering
    (taken : Dispatch.ofRequest request.method.upperCase (Target.ofAddress request.address).path
      = .taken route)
    (leads : service.documentOf (Target.ofAddress request.address) request route = some activity)
    (seen : service.fetches world request = true →
      delivery = world.transport journal.inquiries.length) (elsewhere : Journal) :
    activity.outcome world journal = activity.outcome (world.delivering delivery) elsewhere := by
  simp only [fetches, effectsOf, taken, Bool.not_eq_true'] at seen
  cases route with
  | health =>
    cases leads
    rfl
  | version =>
    cases leads
    rfl
  | latestCompiler =>
    cases leads
    rw [outcome_latestCompiler, outcome_latestCompiler, nextCatalog_delivering (seen rfl)]
  | compiler text =>
    cases leads
    rw [outcome_compiler, outcome_compiler]
    cases found : Version.ofText text with
    | error failure => rfl
    | ok version =>
      -- Only with a version does it come to a fetch.
      simp only [compilerEffects, found] at seen
      rw [nextCatalog_delivering (seen rfl)]
  | inference =>
    cases leads
    cases configured : service.decoder with
    | none =>
      -- Without a decoder the refusal is all there is.
      simp only [inference, configured]
      rfl
    | some decoder => exact outcome_inference_delivering _ configured seen elsewhere
  | file => cases leads

/-- A request is answered the same with any delivery, unless it fetches and gets another one. -/
theorem outcome_handle_delivering
    (seen : service.fetches world request = true →
      delivery = world.transport journal.inquiries.length) (elsewhere : Journal) :
    (service.handle request).outcome world journal =
      (service.handle request).outcome (world.delivering delivery) elsewhere := by
  rcases page_or_leads service request with ⟨page, always⟩ | ⟨route, activity, taken, leads⟩
  · -- The pages depend on nothing but the request.
    rw [always, always]
  · rw [outcome_handle_of_leads _ _ taken leads, outcome_handle_of_leads _ _ taken leads,
      outcome_of_leads_delivering taken leads seen elsewhere]
    rfl

end Seen

section Sessions

/-- A request, and the world in which it is handled. -/
structure Visit where
  /-- The world. -/
  world : World
  /-- The request. -/
  request : Request

/-- The effects of a visit. -/
def Visit.effects (service : Service) (visit : Visit) : Journal :=
  service.effectsOf visit.world visit.request

/-- Tells whether a visit asks for the catalog. -/
def Visit.fetches (service : Service) (visit : Visit) : Bool :=
  Service.fetches service visit.world visit.request

/-- The journal of a service after some visits, one after another. -/
def journalAfter (service : Service) (start : Journal) (visits : List Visit) : Journal :=
  visits.foldl (fun journal visit => (service.handle visit.request).after visit.world journal) start

variable {service : Service}

/-- The effects of visits are those of each of them, in order. -/
theorem effects_journalAfter (start : Journal) (visits : List Visit) :
    (journalAfter service start visits).effects =
      start.effects ++ visits.flatMap (Visit.effects service) := by
  -- Each visit begins after the journal of those before it, so the start stays quantified over.
  induction visits generalizing start with
  | nil => simp [journalAfter]
  | cons visit rest ih =>
    have step := causes_handle service visit.world visit.request start
    calc (journalAfter service start (visit :: rest)).effects
      _ = (journalAfter service ((service.handle visit.request).after visit.world start)
            rest).effects := rfl
      _ = (start.effects ++ visit.effects service) ++ rest.flatMap (Visit.effects service) := by
        rw [ih, step]
        rfl
      _ = start.effects ++ (visit :: rest).flatMap (Visit.effects service) := by
        rw [List.append_assoc, List.flatMap_cons]

/-- There are as many inquiries after some visits as there are fetches among these. -/
theorem length_inquiries_journalAfter (visits : List Visit) :
    (journalAfter service [] visits).inquiries.length = visits.countP (Visit.fetches service) := by
  rw [← Journal.inquiries_effects, effects_journalAfter]
  -- Each visit adds one inquiry to those of the visits after it, or none.
  induction visits with
  | nil => rfl
  | cons visit rest ih =>
    have each : (visit.effects service).inquiries.length =
        if visit.fetches service then 1 else 0 :=
      length_inquiries_effectsOf service visit.world visit.request
    rw [List.flatMap_cons, List.countP_cons, ← ih]
    simp only [Journal.inquiries_append, List.length_append, each]
    omega

/--
Each visit of a session has the effects that it must have, and no others come between them; the
visits that fetch see the deliveries of the transport one after another, each of them its own.
-/
theorem session_effects (service : Service) (transport : Nat → Delivery) (visits : List Visit)
    (shared : ∀ visit ∈ visits, visit.world.transport = transport) :
    (∀ visit ∈ visits,
      (service.handle visit.request).Causes visit.world (visit.effects service) ∧
        Warrants service visit.world visit.request (visit.effects service)) ∧
    (journalAfter service [] visits).effects = visits.flatMap (Visit.effects service) ∧
    ∀ before visit rest, visits = before ++ visit :: rest → ∀ delivery elsewhere,
      (visit.fetches service = true →
        delivery = transport (before.countP (Visit.fetches service))) →
      (service.handle visit.request).outcome visit.world (journalAfter service [] before) =
        (service.handle visit.request).outcome (visit.world.delivering delivery) elsewhere := by
  refine ⟨fun visit _ => ⟨?_, ?_⟩, ?_, ?_⟩
  · exact causes_handle service visit.world visit.request
  · exact warrants_effectsOf service visit.world visit.request
  · exact effects_journalAfter [] visits
  · rintro before visit rest rfl delivery elsewhere seen
    -- As many deliveries are gone as visits before this one have fetched.
    have same : visit.world.transport = transport := shared visit (by simp)
    refine outcome_handle_delivering (fun fetching => ?_) elsewhere
    rw [same, length_inquiries_journalAfter]
    exact seen fetching

/-- A transport that goes through deliveries, and then repeats one. -/
def scripted (script : List Delivery) (last : Delivery) (n : Nat) : Delivery :=
  script.getD n last

/-- A world without settings in which the catalog cannot be reached the first time. -/
def onceUnreachable : World :=
  { oneRelease with
    transport := scripted [.unreachable "ConnectionError" "refused"] (oneRelease.transport 0) }

/-- A request for the compiler of a version. -/
def oneCompiler : Request :=
  ⟨"GET", "/api/compilers/0.4.6", none, []⟩

/-- A request for the compiler of what is no version. -/
def noCompiler : Request :=
  ⟨"GET", "/api/compilers/0.4", none, []⟩

/-- Three requests of which the first and the last fetch, and the last sees the second delivery. -/
theorem session_effects_onceUnreachable :
    (journalAfter metadataless []
        [⟨onceUnreachable, oneCompiler⟩, ⟨onceUnreachable, noCompiler⟩,
          ⟨onceUnreachable, emptyBytecode⟩]).effects =
      [Catalog.asked Settings.unset, .decoded [], Catalog.asked Settings.unset] ∧
    (metadataless.handle emptyBytecode).outcome onceUnreachable
        (journalAfter metadataless []
          [⟨onceUnreachable, oneCompiler⟩, ⟨onceUnreachable, noCompiler⟩]) =
      (metadataless.handle emptyBytecode).outcome
        (onceUnreachable.delivering (oneRelease.transport 0)) [] := by
  obtain ⟨-, effects, seen⟩ := session_effects metadataless onceUnreachable.transport
    [⟨onceUnreachable, oneCompiler⟩, ⟨onceUnreachable, noCompiler⟩,
      ⟨onceUnreachable, emptyBytecode⟩] (by simp)
  constructor
  · rw [effects]
    decide +kernel
  · refine seen [⟨onceUnreachable, oneCompiler⟩, ⟨onceUnreachable, noCompiler⟩]
      ⟨onceUnreachable, emptyBytecode⟩ [] rfl _ _ fun _ => ?_
    have count : List.countP (Visit.fetches metadataless)
        [⟨onceUnreachable, oneCompiler⟩, ⟨onceUnreachable, noCompiler⟩] = 1 := by decide +kernel
    rw [count]
    rfl

end Sessions

end Service

end SolcRelease
