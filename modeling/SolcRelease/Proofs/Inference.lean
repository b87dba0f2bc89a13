import SolcRelease.Inference
import SolcRelease.Proofs.Coroutine
import SolcRelease.Proofs.Range.Bounds
import SolcRelease.Proofs.Range.Comparator

/-! Inference taken apart: the range that comes of the decoder's outcome and of the settings. -/

namespace SolcRelease

namespace Inference

variable {decoder : Decoder} {bytecode : Bytes} {settings : Settings}

/-- The range that a decoder's outcome for a bytecode leads to under given settings. -/
def inferred (decoder : Decoder) (bytecode : Bytes) (settings : Settings) :
    Except Failure VersionRange :=
  match (decoder bytecode).outcome with
  | .ok version => .ok (.exact version)
  | .error failure =>
    match signalOf failure with
    | some .versionAbsent => VersionRange.betweenBounds settings none none
    | some .blockAbsent => VersionRange.belowBound settings none
    | _ => .error failure.leaving

/-- A remark never fails. -/
@[simp] theorem outcome_remark (head : Text) (text : Except TooManyDigits Text) (world : World)
    (journal : Journal) : (remark head text).outcome world journal = .ok () := by
  cases text <;> rfl

/-- A remark has no effects. -/
theorem causes_remark (head : Text) (text : Except TooManyDigits Text) (world : World) :
    (remark head text).Causes world [] := by
  cases text with
  | ok text => exact Activity.causes_log _ _ _
  | error excess => exact Activity.causes_pure ()

section Leaving

/-- No failure of a bound says that there is no more to be had, so each of them leaves as it is. -/
theorem leaving_of_version {bound : Bound} {failure : Failure}
    (failed : bound.version settings = .error failure) : failure.leaving = failure := by
  unfold Bound.version at failed
  split at failed
  · cases failed
  · cases failed
    rfl
  · cases failed
    rfl

/-- The failures of the range below the first bound leave as they are. -/
theorem leaving_belowBound (settings : Settings) :
    (VersionRange.belowBound settings none).mapError Failure.leaving =
      VersionRange.belowBound settings none := by
  rw [VersionRange.belowBound, Bound.versionOr]
  cases first : Bound.metadataFirst.version settings with
  | ok upper => rfl
  | error failure => exact congrArg Except.error (leaving_of_version first)

/-- The failures of the range between both bounds leave as they are. -/
theorem leaving_betweenBounds (settings : Settings) :
    (VersionRange.betweenBounds settings none none).mapError Failure.leaving =
      VersionRange.betweenBounds settings none none := by
  rw [VersionRange.betweenBounds, Bound.versionOr, Bound.versionOr]
  -- The failure is that of the first bound, or else that of the last one.
  cases first : Bound.metadataFirst.version settings with
  | error failure => exact congrArg Except.error (leaving_of_version first)
  | ok lower =>
    cases last : Bound.versionlessLast.version settings with
    | ok upper => rfl
    | error failure => exact congrArg Except.error (leaving_of_version last)

end Leaving

/-- A range is remarked upon before it is given back, and is what it is all the same. -/
theorem outcome_remarked (head : Text) (result : Except Failure VersionRange) (world : World)
    (journal : Journal) :
    Activity.outcome (do
      let range ← Activity.ofOutcome result
      remark head range.text
      return range) world journal = result := by
  simp only [Activity.outcome_bind, Activity.outcome_ofOutcome, outcome_remark,
    Activity.outcome_pure, Outcome.ok_bind]
  cases result <;> rfl

/-- What the decoder came to leads to the range that is inferred from it. -/
theorem outcome_conclude (decoder : Decoder) (bytecode : Bytes) (world : World)
    (journal : Journal) :
    ((conclude (decoder bytecode).outcome).outcome world journal).mapError Failure.leaving =
      inferred decoder bytecode world.settings := by
  unfold inferred conclude
  cases (decoder bytecode).outcome with
  | ok version =>
    -- A remark on the range stands between the range and its return, and never fails.
    simp only [Activity.outcome_bind, outcome_remark, Activity.outcome_pure, Outcome.ok_bind]
    rfl
  | error failure =>
    simp only [Activity.outcome_bind, Activity.outcome_settings, Outcome.ok_bind]
    -- Two signals lead to ranges, and every other failure leaves.
    cases signalOf failure with
    | none => rfl
    | some signal =>
      cases signal with
      | unclassified => rfl
      | versionAbsent => rw [outcome_remarked, leaving_betweenBounds]
      | blockAbsent => rw [outcome_remarked, leaving_belowBound]

/-- Amid others, inference comes to the range that the outcome of the decoder leads to. -/
theorem outcome_task (others : Activity Unit) (decoder : Decoder) (bytecode : Bytes)
    (world : World) (journal : Journal) :
    ((task decoder bytecode).runAmid others).outcome world journal =
      inferred decoder bytecode world.settings := by
  have concluded := outcome_conclude decoder bytecode world
  unfold task
  -- What others do while the decoder is awaited changes the journal and no outcome.
  cases reaction : decoder bytecode with
  | immediate outcome =>
    rw [reaction] at concluded
    simp only [Coroutine.runAmid, Coroutine.outcome_stretch, Activity.outcome_bind,
      Activity.outcome_enter, Outcome.ok_bind]
    exact concluded _
  | deferred outcome =>
    rw [reaction] at concluded
    simp only [Coroutine.runAmid, Activity.outcome_bind, Coroutine.outcome_stretch,
      Activity.outcome_ignoring, Activity.outcome_enter]
    exact concluded _

/-- Inference comes to the range that the outcome of the decoder leads to. -/
@[simp] theorem outcome_infer (decoder : Decoder) (bytecode : Bytes) (world : World)
    (journal : Journal) :
    (infer decoder bytecode).outcome world journal =
      inferred decoder bytecode world.settings :=
  outcome_task (pure ()) decoder bytecode world journal

/-- Inference on its own gives the bytecode to the decoder and concludes from what it came to. -/
theorem infer_eq (decoder : Decoder) (bytecode : Bytes) :
    infer decoder bytecode = (do
      Activity.enter (.decoded bytecode)
      Coroutine.stretch (conclude (decoder bytecode).outcome)) := by
  unfold infer task
  -- Nobody goes on while the decoder is awaited, so it is as if it had its outcome at once.
  cases decoder bytecode with
  | immediate outcome => rfl
  | deferred outcome => rfl

/-- Concluding has no effects. -/
theorem causes_conclude (outcome : Except Failure Version) (world : World) :
    (conclude outcome).Causes world [] := by
  -- A range that was inferred from a signal is remarked upon and given back, if there is one.
  have remarked (head : Text) (result : Except Failure VersionRange) :
      Activity.Causes (do
        let range ← Activity.ofOutcome result
        remark head range.text
        return range) world [] :=
    (Activity.causes_ofOutcome result).bind_nothing fun _ =>
      (causes_remark _ _ world).bind_nothing fun _ => Activity.causes_pure _
  cases outcome with
  | ok version =>
    exact (causes_remark _ _ world).bind_nothing fun _ => Activity.causes_pure _
  | error failure =>
    refine Activity.causes_settings.bind_nothing fun settings => ?_
    -- Both signals lead to a range of their own, and every other failure goes through.
    split
    · exact remarked _ _
    · exact remarked _ _
    · exact Activity.causes_fail _

/-- The one effect of inference is that the decoder is given the bytecode. -/
theorem causes_infer (decoder : Decoder) (bytecode : Bytes) (world : World) :
    (infer decoder bytecode).Causes world [.decoded bytecode] := by
  rw [infer_eq]
  exact (Activity.causes_decoded bytecode).bind_nothing fun _ =>
    Coroutine.causes_stretch (causes_conclude _ world)

/-- Inference never asks for the release catalog. -/
theorem inquiries_infer (decoder : Decoder) (bytecode : Bytes) (world : World)
    (journal : Journal) :
    ((infer decoder bytecode).after world journal).inquiries = journal.inquiries := by
  rw [← Journal.inquiries_effects, causes_infer decoder bytecode world journal,
    Journal.inquiries_append, Journal.inquiries_effects, Journal.inquiries_decoded,
    List.append_nil]

section Bounds

/-- The inference needs a bound: the first for either signal, and then the last for one of them. -/
inductive Needs (decoder : Decoder) (bytecode : Bytes) (settings : Settings) : Bound → Prop where
  /-- The first release with metadata is looked at first. -/
  | first {failure : Failure} {signal : MetadataSignal}
      (failed : (decoder bytecode).outcome = .error failure)
      (signalled : signalOf failure = some signal) (classified : signal ≠ .unclassified) :
      Needs decoder bytecode settings .metadataFirst
  /-- The last release without a version counts where metadata is there, once the first is read. -/
  | last {failure : Failure} {text : Text} {version : Version}
      (failed : (decoder bytecode).outcome = .error failure)
      (absent : signalOf failure = some .versionAbsent)
      (configured : Bound.metadataFirst.IsConfigured settings text)
      (read : Version.read text = .ok version) :
      Needs decoder bytecode settings .versionlessLast

variable {bound : Bound} {text : Text} {version : Version} {failure : Failure}

/-- The failure of a bound that is needed is that of the inference. -/
theorem inferred_of_needs (needs : Needs decoder bytecode settings bound)
    (failed : bound.version settings = .error failure) :
    inferred decoder bytecode settings = .error failure := by
  cases needs with
  | @first other signal stopped signalled classified =>
    -- Both signals that lead to ranges begin with this bound.
    cases signal with
    | unclassified => exact absurd rfl classified
    | versionAbsent =>
      simp [inferred, stopped, signalled, VersionRange.betweenBounds, Bound.versionOr, failed]
    | blockAbsent =>
      simp [inferred, stopped, signalled, VersionRange.belowBound, Bound.versionOr, failed]
  | last stopped absent configured read =>
    -- The first bound has been read by then, and does not fail before the last one.
    have lower := Bound.version_of_read configured read
    simp [inferred, stopped, absent, VersionRange.betweenBounds, Bound.versionOr, lower, failed]

end Bounds

end Inference

end SolcRelease
