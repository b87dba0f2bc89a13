import Mathlib.Data.List.Basic
import SolcRelease.Proofs.Activity

/-! The effects of activities: what they do to the world outside, in order, records left aside. -/

namespace SolcRelease

/-- Tells whether an event reaches the world outside, which a log record does not. -/
def Event.isEffect : Event → Bool
  | .fetched _ | .decoded _ => true
  | .logged _ => false

namespace Journal

/-- The events of a journal that reach the world outside. -/
def effects (journal : Journal) : Journal :=
  journal.filter Event.isEffect

/-- Each effect in a journal is one of its first or of its second part. -/
@[simp] theorem effects_append (first second : Journal) :
    (first ++ second).effects = first.effects ++ second.effects :=
  List.filter_append ..

/-- A record is no effect. -/
@[simp] theorem effects_logged (record : Record) : Journal.effects [.logged record] = [] :=
  rfl

/-- An inquiry is an effect. -/
@[simp] theorem effects_fetched (inquiry : Inquiry) :
    Journal.effects [.fetched inquiry] = [.fetched inquiry] :=
  rfl

/-- A decoding is an effect. -/
@[simp] theorem effects_decoded (bytecode : Bytes) :
    Journal.effects [.decoded bytecode] = [.decoded bytecode] :=
  rfl

/-- The inquiries of a journal are those among its effects. -/
theorem inquiries_effects (journal : Journal) : journal.effects.inquiries = journal.inquiries := by
  simp only [effects, inquiries, List.filterMap_filter]
  -- What is no effect is no inquiry either.
  refine List.filterMap_congr fun event _ => ?_
  cases event <;> rfl

end Journal

namespace Activity

variable {α β : Type}

/-- In a world an activity causes effects if its journal holds just those more than before. -/
def Causes (activity : Activity α) (world : World) (effects : Journal) : Prop :=
  ∀ journal, (activity.after world journal).effects = journal.effects ++ effects

variable {activity : Activity α} {next : α → Activity β} {world : World} {effects more : Journal}

section Operations

/-- An activity that leaves every journal as it is has no effects. -/
theorem causes_nothing (same : ∀ journal, activity.after world journal = journal) :
    activity.Causes world [] := by
  intro journal
  rw [same, List.append_nil]

/-- A value on its own has no effects. -/
theorem causes_pure (value : α) : Causes (pure value) world [] :=
  causes_nothing (after_pure world · value)

/-- Failing has no effects. -/
theorem causes_fail (failure : Failure) : Causes (fail failure : Activity α) world [] :=
  causes_nothing (after_fail world · failure)

/-- An outcome has no effects. -/
theorem causes_ofOutcome (result : Except Failure α) : Causes (ofOutcome result) world [] :=
  causes_nothing (after_ofOutcome world · result)

/-- What was written has no effects. -/
theorem causes_ofWriting (result : Except TooManyDigits α) : Causes (ofWriting result) world [] :=
  causes_nothing (after_ofWriting world · result)

/-- The settings are looked up without effects. -/
theorem causes_settings : Causes settings world [] :=
  causes_nothing (after_settings world)

/-- The room for documents is looked up without effects. -/
theorem causes_room : Causes room world [] :=
  causes_nothing (after_room world)

/-- Logging has no effects. -/
theorem causes_log (logger : Logger) (level : Level) (message : Text) :
    Causes (log logger level message) world [] := by
  intro journal
  -- The journal has one record more, and nothing that reaches the world outside.
  simp

/-- Giving bytecode to the decoder is an effect. -/
theorem causes_decoded (bytecode : Bytes) :
    Causes (enter (.decoded bytecode)) world [.decoded bytecode] := by
  intro journal
  simp

/-- Asking for the release catalog is an effect. -/
theorem causes_fetch (inquiry : Inquiry) : Causes (fetch inquiry) world [.fetched inquiry] := by
  intro journal
  simp

end Operations

/-- The effects of two activities are those of the first, and of the second if it comes to that. -/
theorem Causes.bind (first : activity.Causes world effects)
    (second : ∀ journal value, activity.outcome world journal = .ok value →
      (next value).Causes world more)
    (neither : ∀ journal failure, activity.outcome world journal = .error failure → more = []) :
    (activity >>= next).Causes world (effects ++ more) := by
  intro journal
  rw [after_bind]
  cases came : activity.outcome world journal with
  | ok value =>
    -- The second activity begins where the first left the journal.
    simp only
    rw [second journal value came, first journal, List.append_assoc]
  | error failure =>
    -- The second activity does not begin, so there must be nothing that it would have caused.
    simp only
    rw [neither journal failure came, List.append_nil, first journal]

/-- An activity without effects adds none to those of the activity before it. -/
theorem Causes.bind_nothing (first : activity.Causes world effects)
    (second : ∀ value, (next value).Causes world []) :
    (activity >>= next).Causes world effects := by
  -- Nothing is added, whether the second activity begins or not.
  rw [← List.append_nil effects]
  exact first.bind (fun _ value _ => second value) fun _ _ _ => rfl

/-- What follows an activity that always has one value, and no effects, has the effects of both. -/
theorem Causes.bind_value {value : α} (first : activity.Causes world [])
    (came : ∀ journal, activity.outcome world journal = .ok value)
    (second : (next value).Causes world effects) : (activity >>= next).Causes world effects := by
  rw [← List.nil_append effects]
  refine first.bind (fun journal found same => ?_) fun journal failure failed => ?_
  · -- Whatever the journal, the value is the one that is known.
    rw [came, Except.ok.injEq] at same
    rwa [← same]
  · rw [came] at failed
    cases failed

/-- An activity has the effects of what follows an outcome, and none if there is no value. -/
theorem causes_ofOutcome_bind {result : Except Failure α}
    (value : ∀ value, result = .ok value → (next value).Causes world effects)
    (failure : ∀ failure, result = .error failure → effects = []) :
    (ofOutcome result >>= next).Causes world effects := by
  -- An outcome is no event, so the effects are those of what comes after it.
  rw [← List.nil_append effects]
  refine (causes_ofOutcome result).bind (fun journal found came => ?_) fun journal other came => ?_
  · exact value found (by rwa [outcome_ofOutcome] at came)
  · exact failure other (by rwa [outcome_ofOutcome] at came)

/-- Dealing with a failure adds no effects if that has none of its own. -/
theorem Causes.tryCatch {recover : Failure → Activity α} (first : activity.Causes world effects)
    (nothing : ∀ failure, (recover failure).Causes world []) :
    (tryCatch activity recover).Causes world effects := by
  intro journal
  rw [after_tryCatch]
  cases activity.outcome world journal with
  | ok value => exact first journal
  | error failure =>
    -- What was done before the failure stays done.
    simp only
    rw [nothing failure, first journal, List.append_nil]

end Activity

end SolcRelease
