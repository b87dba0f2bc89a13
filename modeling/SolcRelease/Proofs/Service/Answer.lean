import SolcRelease.Proofs.Activity
import SolcRelease.Proofs.Json.Depth
import SolcRelease.Proofs.Outcome
import SolcRelease.Proofs.Service.Route
import SolcRelease.Service.Basic

/-! The answer to what an activity comes to, and the activity of a request that a route takes. -/

namespace SolcRelease

namespace Service

variable (world : World) (journal : Journal)

section Answering

/-- A document sent with a status, or the fault of one that cannot be written. -/
def sent (room : Room) (status : Nat) (value : Json) : Except Failure Answer :=
  match Json.unwritable? room.answer value with
  | none => .ok (.document status value)
  | some failure => .error (.fault (unsent failure))

/-- The answer to what an activity comes to: a document, a refusal's body, or none for a fault. -/
def answered (room : Room) : Except Failure Json → Except Failure Answer
  | .ok value => sent room 200 value
  | .error (.refusal cause) => cause.body.mapError .fault >>= sent room cause.status
  | .error (.fault cause) => .error (.fault cause)

/-- Sending comes to what is sent. -/
@[simp] theorem outcome_send (status : Nat) (value : Json) :
    (send status value).outcome world journal = sent world.room status value := by
  simp only [send, sent, Activity.outcome_bind, Activity.outcome_room, Outcome.ok_bind]
  cases Json.unwritable? world.room.answer value with
  | none => rfl
  | some failure => rfl

/-- A refusal is answered with its body, grave or not, and a fault stays what it is. -/
theorem outcome_recover (failure : Failure) :
    (recover failure).outcome world journal = answered world.room (.error failure) := by
  cases failure with
  | fault cause => rfl
  | refusal cause =>
    -- A grave refusal is logged first, which changes nothing about its answer.
    by_cases grave : 500 ≤ cause.status
    · simp [recover, answered, grave]
    · simp [recover, answered, grave]

/-- An activity is answered by what it comes to. -/
@[simp] theorem outcome_answering (activity : Activity Json) :
    (answering activity).outcome world journal =
      answered world.room (activity.outcome world journal) := by
  rw [answering, Activity.outcome_tryCatch]
  simp only [Activity.outcome_bind, outcome_send, outcome_recover]
  cases activity.outcome world journal with
  | error failure => rfl
  | ok value =>
    -- What cannot be sent is a fault, which nothing recovers from.
    simp only [Outcome.ok_bind, answered, sent]
    cases Json.unwritable? world.room.answer value <;> rfl

variable {room : Room} {cause : Refusal} {value : Json}

/-- A document that can be written is sent. -/
theorem sent_of_writable (status : Nat) (writable : Json.unwritable? room.answer value = none) :
    sent room status value = .ok (.document status value) := by
  rw [sent, writable]

/-- A refusal whose body can be written is its own answer. -/
theorem answered_refusal (body : cause.body = .ok value)
    (writable : Json.unwritable? room.answer value = none) :
    answered room (.error (.refusal cause)) = .ok (.document cause.status value) := by
  rw [answered, body, ← sent_of_writable cause.status writable]
  rfl

/-- A refusal whose body cannot be written has no answer, but the fault of that. -/
theorem answered_unwritable {failure : Json.WriteFailure} (body : cause.body = .ok value)
    (stuck : Json.unwritable? room.answer value = some failure) :
    answered room (.error (.refusal cause)) = .error (.fault (unsent failure)) := by
  have unsendable : sent room cause.status value = .error (.fault (unsent failure)) := by
    rw [sent, stuck]
  rw [answered, body, ← unsendable]
  rfl

/-- A refusal whose body takes no more than two enclosures is its own answer, whatever the room. -/
theorem answered_shallow (room : Room) (body : cause.body = .ok value)
    (shallow : Json.unwritable? 2 value = none) :
    answered room (.error (.refusal cause)) = .ok (.document cause.status value) :=
  answered_refusal body (Json.unwritable?_eq_none_of_le room.answer_least shallow)

/-- A refusal whose body takes no more than two enclosures is answered the same in any room. -/
theorem answered_congr (room other : Room)
    (shallow : ∀ body, cause.body = .ok body → body.depth ≤ 2) :
    answered room (.error (.refusal cause)) = answered other (.error (.refusal cause)) := by
  cases body : cause.body with
  | error fault => rw [answered, answered, body]; rfl
  | ok value =>
    have enough := shallow value body
    have same := Json.unwritable?_congr (enough.trans room.answer_least)
      (enough.trans other.answer_least)
    simp only [answered, body, Except.mapError, Outcome.ok_bind, sent, same]

end Answering

section Handling

variable {service : Service} {request : Request} {route : Route} {activity : Activity Json}

/-- A request that a route takes is answered by what its activity comes to, or just announced. -/
theorem outcome_handle_of_leads
    (taken : Dispatch.ofRequest request.method.upperCase (Target.ofAddress request.address).path
      = .taken route)
    (leads : service.documentOf (Target.ofAddress request.address) request route = some activity) :
    (service.handle request).outcome world journal =
      (answered world.room (activity.outcome world journal)).map fun answer =>
        if request.method = "HEAD" then answer.announcedOnly else answer := by
  simp only [handle, taken, leads, Activity.outcome_bind, outcome_answering, Activity.outcome_pure]
  cases answered world.room (activity.outcome world journal) <;> rfl

/-- A request gets one page wherever it is handled, or a route takes it that has an activity. -/
theorem page_or_leads (service : Service) (request : Request) :
    (∃ page, ∀ world journal, (service.handle request).outcome world journal = .ok page) ∨
      ∃ route activity,
        Dispatch.ofRequest request.method.upperCase (Target.ofAddress request.address).path
          = .taken route ∧
        service.documentOf (Target.ofAddress request.address) request route = some activity := by
  cases dispatched :
    Dispatch.ofRequest request.method.upperCase (Target.ofAddress request.address).path with
  | taken route =>
    cases leads : service.documentOf (Target.ofAddress request.address) request route with
    | some activity => exact Or.inr ⟨route, activity, rfl, leads⟩
    | none =>
      -- A file is a page that says there is none.
      refine Or.inl ⟨.page 404, fun world journal => ?_⟩
      simp only [handle, dispatched, leads, Activity.outcome_pure]
  | _ =>
    -- The pages depend on nothing but the request.
    left
    simp only [handle, dispatched, Activity.outcome_pure]
    exact ⟨_, fun _ _ => rfl⟩

end Handling

end Service

end SolcRelease
