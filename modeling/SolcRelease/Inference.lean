import SolcRelease.Coroutine
import SolcRelease.Range.Bounds

/-! Inference of the range of versions that may have produced a bytecode. -/

namespace SolcRelease

/-- How a metadata decoder acts on one bytecode. -/
inductive Reaction where
  /-- It has its outcome at once. -/
  | immediate (outcome : Except Failure Version)
  /-- It has to be awaited for its outcome. -/
  | deferred (outcome : Except Failure Version)

/-- What a metadata decoder comes to in the end. -/
def Reaction.outcome : Reaction → Except Failure Version
  | .immediate outcome => outcome
  | .deferred outcome => outcome

/-- A metadata decoder, which finds the compiler version in a bytecode or fails. -/
abbrev Decoder := Bytes → Reaction

namespace Inference

/-- The signal in a failure of the decoder, if it is a refusal with one. -/
def signalOf : Failure → Option MetadataSignal
  | .refusal cause => cause.signal?
  | .fault _ => none

/-- Logs a text about the inference; what cannot be written is not logged. -/
def remark (head : Text) : Except TooManyDigits Text → Activity Unit
  | .ok text => Activity.log .inference .debug (head ++ text)
  | .error _ => pure ()

/-- Turns what a decoder came to into the narrowest range that agrees with it. -/
def conclude : Except Failure Version → Activity VersionRange
  | .ok version => do
    remark "metadata names compiler version=" version.text
    return .exact version
  | .error failure => do
    let settings ← Activity.settings
    match signalOf failure with
    | some .versionAbsent =>
      let range ← Activity.ofOutcome (VersionRange.betweenBounds settings none none)
      remark "metadata without compiler version; range=" range.text
      return range
    | some .blockAbsent =>
      let range ← Activity.ofOutcome (VersionRange.belowBound settings none)
      remark "no metadata block; range=" range.text
      return range
    -- Any other failure of the decoder is none of the inference's business.
    | _ => Activity.fail failure

/-- The inference as a coroutine, which pauses if it has to await the decoder. -/
def task (decoder : Decoder) (bytecode : Bytes) : Coroutine VersionRange :=
  match decoder bytecode with
  | .immediate outcome =>
    .last do
      Activity.enter (.decoded bytecode)
      conclude outcome
  | .deferred outcome => .pausing (Activity.enter (.decoded bytecode)) (.last (conclude outcome))

/-- The narrowest range that agrees with what the decoder makes of a bytecode. -/
def infer (decoder : Decoder) (bytecode : Bytes) : Activity VersionRange :=
  (task decoder bytecode).runAlone

end Inference

end SolcRelease
