import SolcRelease.Activity

/-! Coroutines: activities in stretches, between which others may go on. -/

namespace SolcRelease

/--
The failure that leaves a coroutine which ends in a failure.

By saying that it has no more to give, a coroutine would tell those who wait for it that it has its
value, so this failure leaves as another.
-/
def Failure.leaving : Failure → Failure
  | .fault (.exhausted _ _) => .fault .exhaustedCoroutine
  | failure => failure

/-- An activity in stretches. -/
inductive Coroutine (α : Type) where
  /-- A stretch that goes on to the end. -/
  | last (activity : Activity α)
  /-- A stretch after which others may go on before the rest does. -/
  | pausing (activity : Activity Unit) (rest : Coroutine α)

namespace Coroutine

variable {α : Type}

/-- Goes through with a stretch of a coroutine, whose failure leaves the coroutine. -/
def stretch (activity : Activity α) : Activity α :=
  tryCatch activity fun failure => Activity.fail failure.leaving

/-- Goes through with a coroutine; whenever it pauses, others go on, whose failures are theirs. -/
def runAmid (others : Activity Unit) : Coroutine α → Activity α
  | .last activity => stretch activity
  | .pausing activity rest => do
    stretch activity
    tryCatch others fun _ => pure ()
    rest.runAmid others

/-- Goes through with a coroutine that has the time to itself. -/
def runAlone (coroutine : Coroutine α) : Activity α :=
  coroutine.runAmid (pure ())

end Coroutine

end SolcRelease
