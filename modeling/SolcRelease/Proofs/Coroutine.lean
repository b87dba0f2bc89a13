import SolcRelease.Coroutine
import SolcRelease.Proofs.Effects

/-! The stretches of coroutines, which a failure leaves as another if it says there is no more. -/

namespace SolcRelease

namespace Coroutine

variable {α : Type}

/-- A stretch comes to what its activity comes to, with the failure that leaves. -/
@[simp] theorem outcome_stretch (activity : Activity α) (world : World) (journal : Journal) :
    (stretch activity).outcome world journal =
      (activity.outcome world journal).mapError Failure.leaving := by
  rw [stretch, Activity.outcome_tryCatch]
  cases activity.outcome world journal with
  | ok value => rfl
  | error failure => rfl

/-- A stretch causes what its activity causes, since a failure leaves without effects. -/
theorem causes_stretch {activity : Activity α} {world : World} {effects : Journal}
    (causes : activity.Causes world effects) : (stretch activity).Causes world effects :=
  causes.tryCatch fun failure => Activity.causes_fail failure.leaving

end Coroutine

end SolcRelease
