import SolcRelease.Refusal

/-! Failures of either kind: refusals, which the service foresees, and faults, which it does not. -/

namespace SolcRelease

/-- A failure of any kind. -/
inductive Failure where
  /-- A failure that the service foresees. -/
  | refusal (cause : Refusal)
  /-- A failure that it does not foresee. -/
  | fault (cause : Fault)

/-- The wording of a failure. -/
def Failure.message : Failure → Text
  | .refusal cause => cause.message
  | .fault cause => cause.message

namespace Failure

/-- An excess of digits as a failure. -/
def ofExcess (excess : TooManyDigits) : Failure :=
  .fault (.tooManyDigits excess)

/-- The outcome of writing, with an excess of digits as a failure. -/
def ofWriting {α : Type} : Except TooManyDigits α → Except Failure α
  | .ok value => .ok value
  | .error excess => .error (ofExcess excess)

end Failure

end SolcRelease
