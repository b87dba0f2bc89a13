import SolcRelease.Launch
import SolcRelease.Proofs.Catalog.Tally
import SolcRelease.Proofs.Service.Session

/-!
The warnings about the catalog over whole sessions: whatever is asked of the library, each fetch
that fails has its warning, but for those that fail in silence.
-/

namespace SolcRelease

variable {world : World}

namespace Inference

/-- A remark is no warning. -/
theorem reports_remark (head : Text) (text : Except TooManyDigits Text) (world : World) :
    (remark head text).Reports world := by
  cases text with
  | ok text => exact Activity.reports_log _ (Or.inl Logger.noConfusion)
  | error excess => exact Activity.reports_pure ()

/-- Concluding on a range has nothing to do with catalogs. -/
theorem reports_conclude (outcome : Except Failure Version) (world : World) :
    (conclude outcome).Reports world := by
  -- A range that was inferred from a signal is remarked upon and given back, if there is one.
  have remarked (head : Text) (result : Except Failure VersionRange) :
      Activity.Reports (do
        let range ← Activity.ofOutcome result
        remark head range.text
        return range) world :=
    (Activity.reports_ofOutcome result).bind fun _ =>
      (reports_remark _ _ world).bind fun _ => Activity.reports_pure _
  cases outcome with
  | ok version => exact (reports_remark _ _ world).bind fun _ => Activity.reports_pure _
  | error failure =>
    refine Activity.reports_settings.bind fun settings => ?_
    split
    · exact remarked _ _
    · exact remarked _ _
    · exact Activity.reports_fail _

/-- Inference has nothing to do with catalogs. -/
theorem reports_infer (decoder : Decoder) (bytecode : Bytes) (world : World) :
    (infer decoder bytecode).Reports world := by
  rw [infer_eq]
  refine (Activity.reports_decoded bytecode).bind fun _ => ?_
  -- A failure that leaves the coroutine as another one reports as little as before.
  exact (reports_conclude _ world).tryCatch fun _ => Activity.reports_fail _

end Inference

namespace Service

section Handling

/-- The route of the latest compiler reports what fetching the catalog does. -/
theorem reports_latestCompiler (foreseen : world.IsForeseen) : latestCompiler.Reports world := by
  refine (Catalog.reports_fetch foreseen none none).bind fun catalog => ?_
  refine (Catalog.reports_latestRelease foreseen _).bind fun latest => ?_
  refine (Activity.reports_ofWriting _).bind fun text => ?_
  exact (Catalog.reports_resolve foreseen text _).bind fun _ => Activity.reports_pure _

/-- The route to the compiler of a version reports what fetching the catalog does. -/
theorem reports_compiler (foreseen : world.IsForeseen) (text : Text) :
    (compiler text).Reports world := by
  refine (Activity.reports_ofOutcome _).bind fun version => ?_
  refine (Activity.reports_ofWriting _).bind fun text => ?_
  exact (Catalog.reports_resolve foreseen text none).bind fun _ => Activity.reports_pure _

/-- Looking for candidates reports what fetching the catalog does, if they are wanted. -/
theorem reports_candidates (foreseen : world.IsForeseen) (wanted : Bool) (range : VersionRange) :
    (candidates wanted range).Reports world := by
  cases wanted with
  | false => exact Activity.reports_pure _
  | true =>
    exact (Catalog.reports_matchingReleases foreseen _ none).bind fun _ =>
      (Activity.reports_ofWriting _).bind fun _ => Activity.reports_pure _

/-- The route to inference reports what looking for candidates does. -/
theorem reports_inference (foreseen : world.IsForeseen) (service : Service) (target : Target)
    (request : Request) : (service.inference target request).Reports world := by
  unfold inference
  cases service.decoder with
  | none => exact Activity.reports_fail _
  | some decoder =>
    refine Activity.reports_room.bind fun room => ?_
    refine (Activity.reports_ofOutcome _).bind fun bytecode => ?_
    refine (Inference.reports_infer decoder bytecode world).bind fun range => ?_
    refine (Activity.reports_ofWriting _).bind fun text => ?_
    -- The candidates are the only part of it that may need the catalog.
    refine (reports_candidates foreseen _ range).bind fun found => ?_
    exact (Activity.reports_log _ (Or.inl Logger.noConfusion)).bind fun _ =>
      Activity.reports_pure _

/-- The activity of each route reports. -/
theorem reports_documentOf (foreseen : world.IsForeseen) {service : Service} {target : Target}
    {request : Request} {route : Route} {activity : Activity Json}
    (leads : service.documentOf target request route = some activity) :
    activity.Reports world := by
  cases route with
  | health =>
    cases leads
    exact Activity.reports_nothing fun _ => rfl
  | version =>
    cases leads
    exact Activity.reports_nothing fun _ => rfl
  | latestCompiler =>
    cases leads
    exact reports_latestCompiler foreseen
  | compiler text =>
    cases leads
    exact reports_compiler foreseen text
  | inference =>
    cases leads
    exact reports_inference foreseen service target request
  | file => cases leads

/-- Sending has nothing to report. -/
theorem reports_send (status : Nat) (value : Json) : (send status value).Reports world := by
  refine Activity.reports_room.bind fun room => ?_
  split
  · exact Activity.reports_pure _
  · exact Activity.reports_fail _

/-- Dealing with a failure is logged by the service, and by nobody else. -/
theorem reports_recover (failure : Failure) : (recover failure).Reports world := by
  cases failure with
  | fault cause => exact Activity.reports_fail _
  | refusal cause =>
    have sending : Activity.Reports (do
        send cause.status (← Activity.ofOutcome (cause.body.mapError .fault))) world :=
      (Activity.reports_ofOutcome _).bind fun _ => reports_send _ _
    unfold recover
    dsimp only
    split
    · exact (Activity.reports_log _ (Or.inl Logger.noConfusion)).bind fun _ => sending
    · exact sending

/-- Handling a request reports what its route does. -/
theorem reports_handle (foreseen : world.IsForeseen) (service : Service) (request : Request) :
    (service.handle request).Reports world := by
  unfold handle
  dsimp only
  split
  case h_5 route taken =>
    split
    · exact Activity.reports_pure _
    · rename_i activity leads
      -- A refusal is recovered from after the fetch that it may be about, so both parts tally.
      have answering : (Service.answering activity).Reports world :=
        ((reports_documentOf foreseen leads).bind fun _ => reports_send _ _).tryCatch
          reports_recover
      exact answering.bind fun _ => Activity.reports_pure _
  all_goals exact Activity.reports_pure _

end Handling

section Starting

/-- Attaching the log file has nothing to do with catalogs, and the service logs about it. -/
theorem reports_attachFile (level : Level) : (Logging.attachFile level).Reports world := by
  have reading : Activity.Reports (read : Activity World) world :=
    Activity.reports_nothing fun _ => rfl
  refine reading.bind fun surrounding => ?_
  split
  · exact Activity.reports_pure _
  · split
    · exact (Activity.reports_log _ (Or.inl Logger.noConfusion)).bind fun _ =>
        Activity.reports_pure _
    · exact (Activity.reports_log _ (Or.inl Logger.noConfusion)).bind fun _ =>
        Activity.reports_pure _

/-- Making a service has nothing to do with catalogs. -/
theorem reports_create (decoder : Option Decoder) : (create decoder).Reports world := by
  have settingUp : Logging.setUp.Reports world := by
    refine Activity.reports_settings.bind fun settings => ?_
    refine (Activity.reports_ofOutcome _).bind fun level => ?_
    refine (reports_attachFile level).bind fun file => ?_
    exact (Activity.reports_log _ (Or.inl Logger.noConfusion)).bind fun _ =>
      Activity.reports_pure _
  exact settingUp.bind fun _ => Activity.reports_settings.bind fun _ => Activity.reports_pure _

end Starting

end Service

/-- Something that is asked of the library. -/
inductive Call where
  /-- To fetch the catalog, from an address and with a patience that may be given. -/
  | fetch (source : Option Text) (timeout : Option Seconds)
  /-- To find the build of what is given as a version. -/
  | resolve (given : Json) (catalog : Option Catalog)
  /-- To find the build of a version. -/
  | resolveVersion (version : Version)
  /-- To find the latest release. -/
  | latestRelease (catalog : Option Catalog)
  /-- To list all releases. -/
  | listReleases (catalog : Option Catalog)
  /-- To list the releases in a range. -/
  | matchingReleases (offered : Offered) (catalog : Option Catalog)
  /-- To infer a range. -/
  | infer (decoder : Decoder) (bytecode : Bytes)
  /-- To make a service. -/
  | create (decoder : Option Decoder)
  /-- To have a service handle a request. -/
  | handle (service : Service) (request : Request)

/-- The journal after a call, whatever the call comes to. -/
def Call.after (world : World) (journal : Journal) : Call → Journal
  | .fetch source timeout => (Catalog.fetch source timeout).after world journal
  | .resolve given catalog => (Catalog.resolveGiven given catalog).after world journal
  | .resolveVersion version => (Catalog.resolveVersion version).after world journal
  | .latestRelease catalog => (Catalog.latestRelease catalog).after world journal
  | .listReleases catalog => (Catalog.listReleases catalog).after world journal
  | .matchingReleases offered catalog =>
    (Catalog.matchingReleases offered catalog).after world journal
  | .infer decoder bytecode => (Inference.infer decoder bytecode).after world journal
  | .create decoder => (Service.create decoder).after world journal
  | .handle service request => (service.handle request).after world journal

/-- What each call adds to a journal tallies. -/
theorem Call.tallies (foreseen : world.IsForeseen) (call : Call) (journal : Journal) :
    ∃ events, call.after world journal = journal ++ events ∧
      Catalog.Tallies world journal.inquiries.length events := by
  cases call with
  | fetch source timeout => exact Catalog.reports_fetch foreseen source timeout journal
  | resolve given catalog => exact Catalog.reports_resolveGiven foreseen given catalog journal
  | resolveVersion version => exact Catalog.reports_resolveVersion foreseen version journal
  | latestRelease catalog => exact Catalog.reports_latestRelease foreseen catalog journal
  | listReleases catalog => exact Catalog.reports_listReleases foreseen catalog journal
  | matchingReleases offered catalog =>
    exact Catalog.reports_matchingReleases foreseen offered catalog journal
  | infer decoder bytecode => exact Inference.reports_infer decoder bytecode world journal
  | create decoder => exact Service.reports_create decoder journal
  | handle service request => exact Service.reports_handle foreseen service request journal

namespace Session

/-- A call, and the world in which it is made. -/
structure Step where
  /-- The world. -/
  world : World
  /-- The call. -/
  call : Call

/-- The journal after a step. -/
def Step.after (step : Step) (journal : Journal) : Journal :=
  step.call.after step.world journal

/-- What the fetches of a step come to, which are those that the journal has more after it. -/
def Step.results (step : Step) (journal : Journal) : List (Except Failure Catalog) :=
  Catalog.results step.world journal.inquiries.length
    ((step.after journal).inquiries.drop journal.inquiries.length)

/-- The journal after some steps, one after another, whether they fail or not. -/
def journalAfter (start : Journal) (steps : List Step) : Journal :=
  steps.foldl (fun journal step => step.after journal) start

/-- What the fetches of some steps come to, one after another. -/
def results (start : Journal) : List Step → List (Except Failure Catalog)
  | [] => []
  | step :: rest => step.results start ++ results (step.after start) rest

/-- A step adds its warnings to the journal, one for each fetch that fails and is not silent. -/
theorem Step.catalogWarnings_after {step : Step} (foreseen : step.world.IsForeseen)
    (journal : Journal) :
    (step.after journal).catalogWarnings +
        (step.results journal).countP Catalog.failedInSilence =
      journal.catalogWarnings + (step.results journal).countP Catalog.failed := by
  obtain ⟨events, after, tallies⟩ := step.call.tallies foreseen journal
  -- The fetches of the step are those of the events that the call adds.
  have added : step.results journal =
      Catalog.results step.world journal.inquiries.length events.inquiries := by
    rw [Step.results, Step.after, after, Journal.inquiries_append, List.drop_left]
  rw [added, Step.after, after, Journal.catalogWarnings_append]
  rw [Catalog.Tallies] at tallies
  omega

/-- Steps add their warnings to the journal, one for each fetch that fails and is not silent. -/
theorem catalogWarnings_journalAfter {steps : List Step}
    (foreseen : ∀ step ∈ steps, step.world.IsForeseen) (start : Journal) :
    (journalAfter start steps).catalogWarnings +
        (results start steps).countP Catalog.failedInSilence =
      start.catalogWarnings + (results start steps).countP Catalog.failed := by
  -- Each step begins after the journal of those before it, so the start stays quantified over.
  induction steps generalizing start with
  | nil => rfl
  | cons step rest ih =>
    have first := Step.catalogWarnings_after (foreseen step List.mem_cons_self) start
    have others := ih (fun other member => foreseen other (List.mem_cons_of_mem _ member))
      (step.after start)
    rw [results, List.countP_append, List.countP_append]
    change (journalAfter (step.after start) rest).catalogWarnings + _ = _
    omega

/-- The failures of a session are logged if it has as many warnings as fetches that failed. -/
def LogsFailures (steps : List Step) : Prop :=
  (journalAfter [] steps).catalogWarnings = (results [] steps).countP Catalog.failed

/--
A fetch is logged as it should be unless what is delivered is no object; and so are the failures of
a session unless one of them stays silent, since the warnings and the silent ones make up them all.
-/
theorem failures_logged_iff (source : Option Text) (timeout : Option Seconds) (world : World)
    (journal : Journal)
    (unbroken : ∀ failure, world.transport journal.inquiries.length ≠ .broken failure)
    (steps : List Step) (foreseen : ∀ step ∈ steps, step.world.IsForeseen) :
    (Catalog.LogsOnce source timeout world journal ↔
      ¬ Catalog.IsNoObject world.room.catalog (world.transport journal.inquiries.length)) ∧
    (LogsFailures steps ↔ ∀ result ∈ results [] steps, Catalog.failedInSilence result = false) ∧
    (journalAfter [] steps).catalogWarnings + (results [] steps).countP Catalog.failedInSilence =
      (results [] steps).countP Catalog.failed := by
  have tally := catalogWarnings_journalAfter foreseen []
  have none : Journal.catalogWarnings [] = 0 := rfl
  rw [none, Nat.zero_add] at tally
  refine ⟨Catalog.logsOnce_iff unbroken, ?_, tally⟩
  have noneSilent : (∀ result ∈ results [] steps, Catalog.failedInSilence result = false) ↔
      (results [] steps).countP Catalog.failedInSilence = 0 := by
    simp [List.countP_eq_zero]
  rw [noneSilent, LogsFailures]
  omega

/-- A world that cannot be reached at first, then delivers a list, and empty objects ever after. -/
def lateObject : World :=
  ⟨Settings.unset,
    Service.scripted [.unreachable "ConnectionError" "refused",
        .response (.ofUtf8 200 (Utf8.encode "[]"))]
      (.response (.ofUtf8 200 (Utf8.encode "\x7b\x7d"))),
    .hundred, 0, [], fun _ => false⟩

/-- A session that fetches three times, once for a request, and asks for a version that is none. -/
def threeFetches : List Step :=
  [⟨lateObject, .fetch none none⟩, ⟨lateObject, .handle Service.metadataless Service.noCompiler⟩,
    ⟨lateObject, .handle Service.metadataless Service.oneCompiler⟩,
    ⟨lateObject, .listReleases none⟩]

/-- Whatever the late object's world delivers is foreseen. -/
theorem isForeseen_lateObject : lateObject.IsForeseen := by
  intro number failure broken
  -- There are two deliveries in the script, and one after it.
  rcases number with _ | _ | number <;> cases broken

/--
The first of three fetches fails with its warning. Another fails too, and there is none about it.
-/
theorem failures_logged_threeFetches :
    (∀ failure, lateObject.transport (Journal.inquiries []).length ≠ .broken failure) ∧
      (∀ step ∈ threeFetches, step.world.IsForeseen) ∧
      Catalog.LogsOnce none none lateObject [] ∧
      (results [] threeFetches).countP Catalog.failed = 2 ∧
      (journalAfter [] threeFetches).catalogWarnings = 1 := by
  have unbroken := isForeseen_lateObject (Journal.inquiries []).length
  have foreseen : ∀ step ∈ threeFetches, step.world.IsForeseen := by
    simp [threeFetches, isForeseen_lateObject]
  have failed : (results [] threeFetches).countP Catalog.failed = 2 := by decide +kernel
  have silent : (results [] threeFetches).countP Catalog.failedInSilence = 1 := by decide +kernel
  obtain ⟨logsOnce, -, tally⟩ :=
    failures_logged_iff none none lateObject [] unbroken threeFetches foreseen
  have unreached : ¬ Catalog.IsNoObject lateObject.room.catalog
      (lateObject.transport (Journal.inquiries []).length) :=
    fun ⟨_, _, responded, _⟩ => nomatch responded
  rw [failed, silent] at tally
  exact ⟨unbroken, foreseen, logsOnce.mpr unreached, failed, Nat.succ.inj tally⟩

/-- A world that delivers a list in place of the catalog. -/
def listDelivered : World :=
  ⟨Settings.unset, fun _ => .response (.ofUtf8 200 (Utf8.encode "[]")), .hundred, 0, [],
    fun _ => false⟩

/-- A list is refused, and there is no warning about it. -/
theorem not_logsOnce_listDelivered : ¬ Catalog.LogsOnce none none listDelivered [] := by
  have read : Json.read listDelivered.room.catalog (Utf8.decodeLenient (Utf8.encode "[]")) =
      .ok (.array []) := by
    with_unfolding_all rfl
  have noObject : Catalog.IsNoObject listDelivered.room.catalog (listDelivered.transport 0) :=
    ⟨_, _, rfl, Response.not_fails_ofUtf8 _, ⟨_, rfl, read⟩, fun _ => Json.noConfusion⟩
  intro logs
  exact (Catalog.logsOnce_iff fun _ => Delivery.noConfusion).mp logs noObject

end Session

end SolcRelease
