import SolcRelease.Activity

/-! Activities taken apart: what an activity comes to, and what its journal holds afterwards. -/

namespace SolcRelease

namespace Journal

/-- Each inquiry of a journal is one of its first or of its second part. -/
@[simp] theorem inquiries_append (first second : Journal) :
    (first ++ second).inquiries = first.inquiries ++ second.inquiries :=
  List.filterMap_append

/-- A decoding is no inquiry. -/
@[simp] theorem inquiries_decoded (bytecode : Bytes) :
    Journal.inquiries [.decoded bytecode] = [] :=
  rfl

/-- A record is no inquiry. -/
@[simp] theorem inquiries_logged (record : Record) : Journal.inquiries [.logged record] = [] :=
  rfl

end Journal

/-- Room for a hundred enclosures in each other, wherever documents are read or written. -/
def Room.hundred : Room :=
  ⟨100, 100, 100, by decide⟩

/-- There is a world, such as one without settings in which nothing can be reached. -/
instance : Nonempty World :=
  ⟨⟨Settings.unset, fun _ => .unreachable [] [], .hundred, 0, [], fun _ => false⟩⟩

namespace Activity

variable {α β : Type}

/-- What an activity comes to in a world, when it begins after a journal. -/
def outcome (activity : Activity α) (world : World) (journal : Journal) : Except Failure α :=
  (activity.runAfter world journal).1

/-- The journal after an activity. -/
def after (activity : Activity α) (world : World) (journal : Journal) : Journal :=
  (activity.runAfter world journal).2

section Outcome

variable (world : World) (journal : Journal)

/-- A value on its own is what it comes to. -/
@[simp] theorem outcome_pure (value : α) :
    outcome (pure value) world journal = .ok value :=
  rfl

/-- Failing comes to the failure. -/
@[simp] theorem outcome_fail (failure : Failure) :
    outcome (fail failure : Activity α) world journal = .error failure :=
  rfl

/-- Refusing comes to the refusal. -/
@[simp] theorem outcome_refuse (refusal : Refusal) :
    outcome (refuse refusal : Activity α) world journal = .error (.refusal refusal) :=
  rfl

/-- Two activities come to what their outcomes come to, the second after the first. -/
@[simp] theorem outcome_bind (activity : Activity α) (next : α → Activity β) :
    outcome (activity >>= next) world journal =
      outcome activity world journal >>= fun value =>
        outcome (next value) world (after activity world journal) := by
  simp only [outcome, after, runAfter_bind]
  -- The second activity runs only if the first has a value.
  rcases runAfter activity world journal with ⟨_ | _, later⟩
  · rfl
  · rfl

/-- An outcome comes to itself. -/
@[simp] theorem outcome_ofOutcome (result : Except Failure α) :
    outcome (ofOutcome result) world journal = result := by
  -- An outcome is read off before anything happens, whether it is a value or a failure.
  rw [outcome, runAfter_ofOutcome]

/-- What was written comes to itself, or to the fault of a number that was too long. -/
@[simp] theorem outcome_ofWriting (result : Except TooManyDigits α) :
    outcome (ofWriting result) world journal = Failure.ofWriting result :=
  outcome_ofOutcome world journal _

/-- The settings are those of the world. -/
@[simp] theorem outcome_settings : outcome settings world journal = .ok world.settings :=
  rfl

/-- The room for documents is that of the world. -/
@[simp] theorem outcome_room : outcome room world journal = .ok world.room :=
  rfl

/-- Entering an event succeeds. -/
@[simp] theorem outcome_enter (event : Event) : outcome (enter event) world journal = .ok () :=
  rfl

/-- Logging succeeds. -/
@[simp] theorem outcome_log (logger : Logger) (level : Level) (message : Text) :
    outcome (log logger level message) world journal = .ok () :=
  rfl

/-- What a failed activity comes to is left to the activity that deals with the failure. -/
theorem outcome_tryCatch (activity : Activity α) (recover : Failure → Activity α) :
    outcome (tryCatch activity recover) world journal =
      match outcome activity world journal with
      | .ok value => .ok value
      | .error failure => outcome (recover failure) world (after activity world journal) := by
  simp only [outcome, after, runAfter_tryCatch]
  -- A value is kept as it is, and only a failure is dealt with.
  rcases runAfter activity world journal with ⟨_ | _, later⟩
  · rfl
  · rfl

/-- An activity whose failure is nobody's concern succeeds. -/
@[simp] theorem outcome_ignoring (activity : Activity Unit) :
    outcome (tryCatch activity fun _ => pure ()) world journal = .ok () := by
  rw [outcome_tryCatch]
  cases outcome activity world journal <;> rfl

/-- An inquiry gets the delivery that comes after those of all inquiries before it. -/
@[simp] theorem outcome_fetch (inquiry : Inquiry) :
    outcome (fetch inquiry) world journal = .ok (world.transport journal.inquiries.length) :=
  rfl

end Outcome

section After

variable (world : World) (journal : Journal)

/-- A value on its own leaves the journal as it is. -/
@[simp] theorem after_pure (value : α) : after (pure value) world journal = journal :=
  rfl

/-- Failing leaves the journal as it is. -/
@[simp] theorem after_fail (failure : Failure) :
    after (fail failure : Activity α) world journal = journal :=
  rfl

/-- The journal of two activities is that of the second, or that of the first if it failed. -/
theorem after_bind (activity : Activity α) (next : α → Activity β) :
    after (activity >>= next) world journal =
      match outcome activity world journal with
      | .ok value => after (next value) world (after activity world journal)
      | .error _ => after activity world journal := by
  simp only [outcome, after, runAfter_bind]
  -- What failed has left a journal all the same.
  rcases runAfter activity world journal with ⟨_ | _, later⟩
  · rfl
  · rfl

/-- What a failed activity left in the journal stays there when its failure is dealt with. -/
theorem after_tryCatch (activity : Activity α) (recover : Failure → Activity α) :
    after (tryCatch activity recover) world journal =
      match outcome activity world journal with
      | .ok _ => after activity world journal
      | .error failure => after (recover failure) world (after activity world journal) := by
  simp only [outcome, after, runAfter_tryCatch]
  rcases runAfter activity world journal with ⟨_ | _, later⟩
  · rfl
  · rfl

/-- An outcome leaves the journal as it is. -/
@[simp] theorem after_ofOutcome (result : Except Failure α) :
    after (ofOutcome result) world journal = journal := by
  rw [after, runAfter_ofOutcome]

/-- What was written leaves the journal as it is. -/
@[simp] theorem after_ofWriting (result : Except TooManyDigits α) :
    after (ofWriting result) world journal = journal :=
  after_ofOutcome world journal _

/-- The room for documents leaves the journal as it is. -/
@[simp] theorem after_room : after room world journal = journal :=
  rfl

/-- The settings leave the journal as it is. -/
@[simp] theorem after_settings : after settings world journal = journal :=
  rfl

/-- An event goes to the end of the journal. -/
@[simp] theorem after_enter (event : Event) :
    after (enter event) world journal = journal ++ [event] :=
  rfl

/-- A record goes to the end of the journal. -/
@[simp] theorem after_log (logger : Logger) (level : Level) (message : Text) :
    after (log logger level message) world journal =
      journal ++ [.logged ⟨logger, level, message⟩] :=
  rfl

/-- An inquiry goes to the end of the journal. -/
@[simp] theorem after_fetch (inquiry : Inquiry) :
    after (fetch inquiry) world journal = journal ++ [.fetched inquiry] :=
  rfl

end After

end Activity

end SolcRelease
