import SolcRelease.Proofs.Service.Obstacle

/-! Every request is answered with a document or a refusal's body, unless there is an obstacle. -/

namespace SolcRelease

namespace Service

variable {service : Service} {request : Request} {world : World} {journal : Journal}
  {route : Route} {activity : Activity Json} {fault : Fault}

section Accounting

end Accounting

section Containing

/-- An obstacle on a route ends its activity in the fault that leaves the service. -/
theorem answered_of_obstacle
    (leads : service.documentOf (Target.ofAddress request.address) request route = some activity)
    (obstacle : Obstacle service request world journal route fault) :
    answered world.room (activity.outcome world journal) = .error (.fault fault) := by
  -- Each obstacle stands where its route looks, and nothing before it fails.
  cases obstacle with
  | textTooLong long =>
    obtain rfl := Option.some.inj leads
    rw [outcome_compiler, Version.ofText_of_long long]
    rfl
  | compilerUnreadable read unreadable =>
    obtain rfl := Option.some.inj leads
    rw [outcome_compiler, Version.ofText_eq_ok_iff.mpr read, Outcome.ok_bind,
      documentOfVersion_of_fits (Version.fits_of_read read), nextCatalog,
      Catalog.delivered_of_isUnreadable unreadable]
    rfl
  | latestUnreadable unreadable =>
    obtain rfl := Option.some.inj leads
    rw [outcome_latestCompiler, nextCatalog, Catalog.delivered_of_isUnreadable unreadable]
    rfl
  | latestTooLong fetched long =>
    obtain rfl := Option.some.inj leads
    rw [outcome_latestCompiler, fetched, Outcome.ok_bind, latestDocument, Catalog.latestVersion,
      long]
    rfl
  | payloadTooDeep configured deep =>
    obtain rfl := Option.some.inj leads
    rw [outcome_inference world journal configured, Payload.ofRequest_of_isTooDeep deep]
    rfl
  | boundTooLong configured carried needs isText long =>
    obtain rfl := Option.some.inj leads
    rw [outcome_inference world journal configured, carried, Outcome.ok_bind,
      Inference.inferred_of_needs needs (Bound.version_of_long isText long)]
    rfl
  | candidatesUnreadable infers wanted unreadable =>
    obtain rfl := Option.some.inj leads
    rw [outcome_inference_of_infers infers, wanted, nextCatalog,
      Catalog.delivered_of_isUnreadable unreadable]
    rfl
  | keyTooLong infers wanted fetched long =>
    obtain rfl := Option.some.inj leads
    rw [outcome_inference_of_infers infers, wanted, fetched, foundTexts, if_pos rfl,
      Outcome.ok_bind, releaseTexts, Catalog.listing_eq_error_iff.mpr ⟨_, long, rfl⟩]
    rfl
  | detailsForeign same refused foreign =>
    -- The refusal is there, but it has no body.
    obtain rfl := Option.some.inj (leads.symm.trans same)
    rw [refused, answered, Refusal.body, foreign]
    rfl
  | bodyTooLong same refused isBody stops =>
    -- The refusal has a body, but that cannot be written.
    obtain rfl := Option.some.inj (leads.symm.trans same)
    rw [refused, answered_unwritable isBody (Json.unwritable?_of_stops stops), unsent]
  | bodyTooDeep same refused isBody stops =>
    obtain rfl := Option.some.inj (leads.symm.trans same)
    rw [refused, answered_unwritable isBody (Json.unwritable?_of_stops stops), unsent]

end Containing

end Service

end SolcRelease
