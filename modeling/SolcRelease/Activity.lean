import SolcRelease.World

/-!
Activities: computations that read settings, ask for the release catalog, log and may fail.

An activity keeps a journal, and the world answers its inquiries one after another, so the outcome
is a function of the world and of the journal so far.
-/

namespace SolcRelease

/-- A computation in a world, with a journal. -/
abbrev Activity := ReaderT World (ExceptT Failure (StateM Journal))

namespace Activity

/-- The outcome of an activity that begins after a journal, and the journal after it. -/
def runAfter {α : Type} (activity : Activity α) (world : World) (journal : Journal) :
    Except Failure α × Journal :=
  (activity.run world).run.run journal

/-- Fails. -/
def fail {α : Type} (failure : Failure) : Activity α :=
  throw failure

/-- Fails with a refusal. -/
def refuse {α : Type} (refusal : Refusal) : Activity α :=
  fail (.refusal refusal)

/-- Goes on with the value of an outcome, or fails as it does. -/
def ofOutcome {α : Type} : Except Failure α → Activity α
  | .ok value => pure value
  | .error failure => fail failure

/-- Goes on with what was written, or fails if a number was too long for it. -/
def ofWriting {α : Type} (outcome : Except TooManyDigits α) : Activity α :=
  ofOutcome (Failure.ofWriting outcome)

/-- The settings in force. -/
def settings : Activity Settings := do
  return (← read).settings

/-- How many enclosures of documents may lie in each other. -/
def room : Activity Room := do
  return (← read).room

/-- Enters an event in the journal. -/
def enter (event : Event) : Activity Unit :=
  modify (· ++ [event])

/-- Logs a record. -/
def log (logger : Logger) (level : Level) (message : Text) : Activity Unit :=
  enter (.logged ⟨logger, level, message⟩)

/-- Asks for the release catalog, and gets the next delivery of the transport. -/
def fetch (inquiry : Inquiry) : Activity Delivery := do
  let journal : Journal ← get
  enter (.fetched inquiry)
  return (← read).transport journal.inquiries.length

section Running

variable {α β : Type} (world : World) (journal : Journal)

/-- A value on its own leaves the journal as it is. -/
@[simp] theorem runAfter_pure (value : α) :
    runAfter (pure value) world journal = (.ok value, journal) :=
  rfl

/-- Failing leaves the journal as it is. -/
@[simp] theorem runAfter_fail (failure : Failure) :
    runAfter (fail failure : Activity α) world journal = (.error failure, journal) :=
  rfl

/-- The second of two activities runs after the journal of the first, unless that failed. -/
theorem runAfter_bind (activity : Activity α) (next : α → Activity β) :
    runAfter (activity >>= next) world journal =
      match runAfter activity world journal with
      | (.ok value, later) => runAfter (next value) world later
      | (.error failure, later) => (.error failure, later) := by
  simp only [runAfter, ReaderT.run, ExceptT.run, StateT.run, bind, ReaderT.bind, ExceptT.bind,
    ExceptT.mk, StateT.bind]
  -- The outcome of the first activity decides which side both take.
  rcases activity world journal with ⟨_ | _, later⟩
  · rfl
  · rfl

/-- What a failed activity did before stays in the journal when its failure is dealt with. -/
theorem runAfter_tryCatch (activity : Activity α) (recover : Failure → Activity α) :
    runAfter (tryCatch activity recover) world journal =
      match runAfter activity world journal with
      | (.ok value, later) => (.ok value, later)
      | (.error failure, later) => runAfter (recover failure) world later := by
  simp only [runAfter, ReaderT.run, ExceptT.run, StateT.run, tryCatch, tryCatchThe,
    MonadExceptOf.tryCatch, ExceptT.tryCatch, bind, ExceptT.mk, StateT.bind]
  rcases activity world journal with ⟨_ | _, later⟩
  · rfl
  · rfl

/-- An outcome leaves the journal as it is. -/
@[simp] theorem runAfter_ofOutcome (outcome : Except Failure α) :
    runAfter (ofOutcome outcome) world journal = (outcome, journal) := by
  cases outcome with
  | ok value => rfl
  | error failure => rfl

/-- The settings are those of the world. -/
@[simp] theorem runAfter_settings :
    runAfter settings world journal = (.ok world.settings, journal) :=
  rfl

/-- The room for documents is that of the world. -/
@[simp] theorem runAfter_room : runAfter room world journal = (.ok world.room, journal) :=
  rfl

/-- An event goes to the end of the journal. -/
@[simp] theorem runAfter_enter (event : Event) :
    runAfter (enter event) world journal = (.ok (), journal ++ [event]) :=
  rfl

/-- A record goes to the end of the journal. -/
@[simp] theorem runAfter_log (logger : Logger) (level : Level) (message : Text) :
    runAfter (log logger level message) world journal
      = (.ok (), journal ++ [.logged ⟨logger, level, message⟩]) :=
  rfl

/-- Each inquiry gets the delivery that comes after those of all inquiries before it. -/
@[simp] theorem runAfter_fetch (inquiry : Inquiry) :
    runAfter (fetch inquiry) world journal
      = (.ok (world.transport journal.inquiries.length), journal ++ [.fetched inquiry]) :=
  rfl

end Running

end Activity

end SolcRelease
