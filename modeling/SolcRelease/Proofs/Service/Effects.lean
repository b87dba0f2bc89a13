import SolcRelease.Proofs.Catalog.Effects
import SolcRelease.Proofs.Inference
import SolcRelease.Proofs.Version.Given
import SolcRelease.Service.Basic

/-! What handling a request does to the world outside, as a function of the request. -/

namespace SolcRelease

namespace Service

variable {world : World} {effects : Journal}

section Routes

/-- The effects of the route to the compiler of a version: a fetch, if the text denotes any. -/
def compilerEffects (settings : Settings) (text : Text) : Journal :=
  match Version.ofText text with
  | .ok _ => [Catalog.asked settings]
  | .error _ => []

/-- The effects of looking for candidates: a fetch, if they are wanted. -/
def candidatesEffects (settings : Settings) (wanted : Bool) : Journal :=
  if wanted then [Catalog.asked settings] else []

/-- The effects of inference from a bytecode, in which candidates come last. -/
def decodingEffects (decoder : Decoder) (bytecode : Bytes) (settings : Settings) (wanted : Bool) :
    Journal :=
  .decoded bytecode ::
    match Inference.inferred decoder bytecode settings with
    | .error _ => []
    | .ok range =>
      match range.text with
      | .error _ => []
      | .ok _ => candidatesEffects settings wanted

/-- The effects of the route to inference: none without a decoder or without bytecode. -/
def inferenceEffects (service : Service) (world : World) (target : Target) (request : Request) :
    Journal :=
  match service.decoder, Payload.ofRequest world.room.request request with
  | some decoder, .ok bytecode =>
    decodingEffects decoder bytecode world.settings (wantsCandidates target)
  | _, _ => []

/-- The effects of a request by its route. -/
def effectsOf (service : Service) (world : World) (request : Request) : Journal :=
  let target := Target.ofAddress request.address
  match Dispatch.ofRequest request.method.upperCase target.path with
  | .taken .latestCompiler => [Catalog.asked world.settings]
  | .taken (.compiler text) => compilerEffects world.settings text
  | .taken .inference => inferenceEffects service world target request
  | _ => []

/-- The route of the latest compiler fetches once. -/
theorem causes_latestCompiler (world : World) :
    latestCompiler.Causes world [Catalog.asked world.settings] := by
  refine (Catalog.causes_fetch none none world).bind_nothing fun catalog => ?_
  have getting : (Catalog.orFetched (some catalog)).Causes world [] :=
    Catalog.causes_orFetched_some catalog
  -- The catalog is at hand from then on.
  refine (getting.bind_nothing fun _ => Activity.causes_ofOutcome _).bind_nothing fun latest => ?_
  refine (Activity.causes_ofWriting _).bind_nothing fun text => ?_
  exact (Catalog.causes_resolve getting fun _ _ => rfl).bind_nothing fun _ => Activity.causes_pure _

/-- The route to the compiler of a version fetches once, if the text denotes one. -/
theorem causes_compiler (world : World) (text : Text) :
    (compiler text).Causes world (compilerEffects world.settings text) := by
  refine Activity.causes_ofOutcome_bind (fun version found => ?_) fun failure failed => ?_
  · -- What was read is written and read again, and neither fails.
    obtain ⟨again, written, read⟩ := Version.exists_text_of_ofText found
    rw [compilerEffects, found, written]
    have resolving : (Catalog.resolve again none).Causes world [Catalog.asked world.settings] := by
      refine Catalog.causes_resolve (Catalog.causes_orFetched_none world) fun failure failed => ?_
      rw [read] at failed
      cases failed
    exact resolving.bind_nothing fun _ => Activity.causes_pure _
  · rw [compilerEffects, failed]

/-- Candidates are looked for in a freshly fetched catalog, if they are wanted. -/
theorem causes_candidates (wanted : Bool) (range : VersionRange) :
    (candidates wanted range).Causes world (candidatesEffects world.settings wanted) := by
  cases wanted with
  | false => exact Activity.causes_pure _
  | true =>
    have matching :=
      Catalog.causes_matchingReleases (.range range) (Catalog.causes_orFetched_none world)
    exact matching.bind_nothing fun _ =>
      (Activity.causes_ofWriting _).bind_nothing fun _ => Activity.causes_pure _

/-- The route to inference has the effects of decoding, once there is something to decode. -/
theorem causes_inference (service : Service) (world : World) (target : Target)
    (request : Request) :
    (service.inference target request).Causes world
      (inferenceEffects service world target request) := by
  unfold inference inferenceEffects
  cases service.decoder with
  | none => exact Activity.causes_fail _
  | some decoder =>
    -- Neither a look at the room nor the payload itself is an effect.
    refine Activity.causes_room.bind_value (Activity.outcome_room world) ?_
    refine Activity.causes_ofOutcome_bind (fun bytecode carried => ?_) fun failure failed => ?_
    · rw [carried]
      -- The decoder comes first, and what it leads to decides about everything after it.
      refine (Inference.causes_infer decoder bytecode world).bind (fun _ range came => ?_)
        fun _ failure failed => ?_
      · rw [Inference.outcome_infer] at came
        rw [came]
        dsimp only
        cases range.text with
        | error excess =>
          exact Activity.causes_ofOutcome_bind (fun _ => nofun) fun _ _ => rfl
        | ok text =>
          refine Activity.causes_ofOutcome_bind (fun _ _ => ?_) fun _ => nofun
          -- The record at the end is the only other event.
          exact (causes_candidates _ range).bind_nothing fun found =>
            (Activity.causes_log _ _ _).bind_nothing fun _ => Activity.causes_pure _
      · rw [Inference.outcome_infer] at failed
        rw [failed]
    · rw [failed]

end Routes

section Handling

/-- Sending has no effects. -/
theorem causes_send (status : Nat) (value : Json) : (send status value).Causes world [] := by
  refine Activity.causes_room.bind_nothing fun room => ?_
  -- A document that cannot be written is a failure, which is no effect either.
  split
  · exact Activity.causes_pure _
  · exact Activity.causes_fail _

/-- A failure is answered without effects. -/
theorem causes_recover (failure : Failure) : (recover failure).Causes world [] := by
  cases failure with
  | fault cause => exact Activity.causes_fail _
  | refusal cause =>
    have sending : Activity.Causes (do
        send cause.status (← Activity.ofOutcome (cause.body.mapError .fault))) world [] :=
      (Activity.causes_ofOutcome _).bind_nothing fun _ => causes_send _ _
    -- A grave refusal is logged before it is sent.
    unfold recover
    dsimp only
    split
    · exact (Activity.causes_log _ _ _).bind_nothing fun _ => sending
    · exact sending

/-- An activity is answered with its own effects. -/
theorem causes_answering {activity : Activity Json} (acting : activity.Causes world effects) :
    (answering activity).Causes world effects :=
  (acting.bind_nothing fun _ => causes_send _ _).tryCatch causes_recover

/-- The activity of a route has the effects of the requests that it takes. -/
theorem causes_of_leads {service : Service} {request : Request} {route : Route}
    {activity : Activity Json}
    (taken : Dispatch.ofRequest request.method.upperCase (Target.ofAddress request.address).path
      = .taken route)
    (leads : service.documentOf (Target.ofAddress request.address) request route = some activity) :
    activity.Causes world (service.effectsOf world request) := by
  simp only [effectsOf, taken]
  cases route with
  | health =>
    cases leads
    exact Activity.causes_nothing fun _ => rfl
  | version =>
    cases leads
    exact Activity.causes_nothing fun _ => rfl
  | latestCompiler =>
    cases leads
    exact causes_latestCompiler world
  | compiler text =>
    cases leads
    exact causes_compiler world text
  | inference =>
    cases leads
    exact causes_inference service world _ request
  | file => cases leads

/-- Handling a request has the effects of its route, if it is not answered with a page. -/
theorem causes_handle (service : Service) (world : World) (request : Request) :
    (service.handle request).Causes world (service.effectsOf world request) := by
  unfold handle
  dsimp only
  split
  case h_5 route taken =>
    split
    · -- Nothing but a file has no document, and a file has no effects.
      rename_i paged
      cases route with
      | file =>
        simp only [effectsOf, taken]
        exact Activity.causes_pure _
      | _ => cases paged
    · rename_i activity leads
      exact (causes_answering (causes_of_leads taken leads)).bind_nothing fun _ =>
        Activity.causes_pure _
  all_goals
    rename_i other
    simp only [effectsOf, other]
    exact Activity.causes_pure _

end Handling

end Service

end SolcRelease
