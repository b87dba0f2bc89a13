import SolcRelease.Proofs.Catalog.Warnings

/-!
The tally of fetches: in all that is done with catalogs the warnings about them, and the failures
that stay silent, make up the fetches that fail.
-/

namespace SolcRelease

namespace Catalog

/-- What fetches in a world come to, of which the first gets the delivery with a number. -/
def results (world : World) : Nat → List Inquiry → List (Except Failure Catalog)
  | _, [] => []
  | number, inquiry :: rest =>
    delivered inquiry.url world.room.catalog (world.transport number)
      :: results world (number + 1) rest

/-- Tells whether a fetch has failed, which is when it comes to no catalog. -/
def failed (result : Except Failure Catalog) : Bool :=
  !result.isOk

/-- Tells whether a fetch has failed in silence: on what is no object, or by a fault. -/
def failedInSilence : Except Failure Catalog → Bool
  | .error (.refusal (.catalogUnavailable (.notObject _) _)) => true
  | .error (.fault _) => true
  | _ => false

/-- Events tally if each fetch that fails there has its warning, or fails in silence. -/
def Tallies (world : World) (number : Nat) (events : Journal) : Prop :=
  events.catalogWarnings + (results world number events.inquiries).countP failedInSilence =
    (results world number events.inquiries).countP failed

variable {world : World} {number : Nat}

/-- Later fetches get the deliveries after those of the fetches before them. -/
theorem results_append (first second : List Inquiry) :
    results world number (first ++ second) =
      results world number first ++ results world (number + first.length) second := by
  -- Each inquiry takes one delivery, so the number goes up along the list.
  induction first generalizing number with
  | nil => rfl
  | cons inquiry rest ih =>
    rw [List.cons_append, results, results, ih, List.cons_append, List.length_cons,
      Nat.add_right_comm, Nat.add_assoc]

/-- Events tally together if they do apart. -/
theorem Tallies.append {first second : Journal} (before : Tallies world number first)
    (after : Tallies world (number + first.inquiries.length) second) :
    Tallies world number (first ++ second) := by
  rw [Tallies] at *
  rw [Journal.catalogWarnings_append, Journal.inquiries_append, results_append,
    List.countP_append, List.countP_append]
  omega

/-- Events without inquiries tally if there is no warning about the catalog among them. -/
theorem tallies_of_quiet {events : Journal} (asksNothing : events.inquiries = [])
    (quiet : events.catalogWarnings = 0) : Tallies world number events := by
  rw [Tallies, asksNothing, quiet]
  rfl

end Catalog

namespace Activity

variable {α β : Type} {activity : Activity α} {next : α → Activity β} {world : World}

/-- An activity reports in a world if what it adds to a journal tallies. -/
def Reports (activity : Activity α) (world : World) : Prop :=
  ∀ journal, ∃ events, activity.after world journal = journal ++ events ∧
    Catalog.Tallies world journal.inquiries.length events

section Operations

/-- An activity that leaves every journal as it is has nothing to report. -/
theorem reports_nothing (same : ∀ journal, activity.after world journal = journal) :
    activity.Reports world := by
  intro journal
  exact ⟨[], by rw [same, List.append_nil], Catalog.tallies_of_quiet rfl rfl⟩

/-- A value on its own has nothing to report. -/
theorem reports_pure (value : α) : Reports (pure value) world :=
  reports_nothing (after_pure world · value)

/-- Failing has nothing to report. -/
theorem reports_fail (failure : Failure) : Reports (fail failure : Activity α) world :=
  reports_nothing (after_fail world · failure)

/-- An outcome has nothing to report. -/
theorem reports_ofOutcome (result : Except Failure α) : Reports (ofOutcome result) world :=
  reports_nothing (after_ofOutcome world · result)

/-- What was written has nothing to report. -/
theorem reports_ofWriting (result : Except TooManyDigits α) : Reports (ofWriting result) world :=
  reports_nothing (after_ofWriting world · result)

/-- The settings have nothing to report. -/
theorem reports_settings : Reports settings world :=
  reports_nothing (after_settings world)

/-- The room for documents has nothing to report. -/
theorem reports_room : Reports room world :=
  reports_nothing (after_room world)

/-- Giving bytecode to the decoder has nothing to do with catalogs. -/
theorem reports_decoded (bytecode : Bytes) : Reports (enter (.decoded bytecode)) world := by
  intro journal
  exact ⟨_, after_enter world journal _, Catalog.tallies_of_quiet rfl rfl⟩

/-- A record is no warning about the catalog if another logger or another level has it. -/
theorem reports_log {logger : Logger} {level : Level} (message : Text)
    (other : logger ≠ .catalog ∨ level ≠ .warning) :
    Reports (log logger level message) world := by
  intro journal
  refine ⟨_, after_log world journal logger level message, Catalog.tallies_of_quiet rfl ?_⟩
  by_cases warns : level = .warning
  · -- It warns, but about something else.
    have elsewhere := other.resolve_right (not_not_intro warns)
    simp [Journal.catalogWarnings, warns, elsewhere]
  · simp [Journal.catalogWarnings, warns]

end Operations

/-- An activity that reports also does so after events that tally, together with these. -/
theorem Reports.continued {journal events : Journal} (reports : activity.Reports world)
    (tallies : Catalog.Tallies world journal.inquiries.length events) :
    ∃ more, activity.after world (journal ++ events) = journal ++ more ∧
      Catalog.Tallies world journal.inquiries.length more := by
  obtain ⟨later, after, talliesLater⟩ := reports (journal ++ events)
  -- The deliveries go on where those of the events before have ended.
  rw [Journal.inquiries_append, List.length_append] at talliesLater
  exact ⟨events ++ later, by rw [after, List.append_assoc], tallies.append talliesLater⟩

/-- Two activities report one after the other if each of them does. -/
theorem Reports.bind (first : activity.Reports world)
    (second : ∀ value, (next value).Reports world) : (activity >>= next).Reports world := by
  intro journal
  obtain ⟨events, after, tallies⟩ := first journal
  rw [after_bind, after]
  cases activity.outcome world journal with
  | ok value => exact (second value).continued tallies
  | error failure => exact ⟨events, rfl, tallies⟩

/-- Dealing with a failure reports if what failed does, and what deals with it. -/
theorem Reports.tryCatch {recover : Failure → Activity α} (first : activity.Reports world)
    (second : ∀ failure, (recover failure).Reports world) :
    (tryCatch activity recover).Reports world := by
  intro journal
  obtain ⟨events, after, tallies⟩ := first journal
  rw [after_tryCatch, after]
  cases activity.outcome world journal with
  | ok value => exact ⟨events, rfl, tallies⟩
  | error failure => exact (second failure).continued tallies

end Activity

namespace Catalog

variable {world : World}

/-- Fetching reports: a failure has its warning unless it is one of those that stay silent. -/
theorem reports_fetch (foreseen : world.IsForeseen) (source : Option Text)
    (timeout : Option Seconds) : (fetch source timeout).Reports world := by
  intro journal
  obtain ⟨notes, after, asksNothing, warned⟩ := exists_after_fetch source timeout world journal
  refine ⟨_, after, ?_⟩
  have inquiries : Journal.inquiries (.fetched ⟨source.getD (urlOf world.settings),
      timeout.getD (timeoutOf world.settings)⟩ :: notes) =
      [⟨source.getD (urlOf world.settings), timeout.getD (timeoutOf world.settings)⟩] :=
    congrArg _ asksNothing
  rw [Tallies, inquiries, Journal.catalogWarnings, Journal.warnings_fetched, warned, results,
    results]
  rcases complaints_cases (source.getD (urlOf world.settings)) world.room.catalog
      (foreseen journal.inquiries.length) with
    ⟨catalog, made, silent⟩ | ⟨fault, message, warns, refused, complaint⟩ |
      ⟨status, -, refused, silent⟩ | ⟨fault, ended, silent⟩
  · rw [made, silent]
    rfl
  · rw [refused, complaint]
    -- A fault with a warning is none of those that stay silent.
    cases fault with
    | notObject status => cases warns
    | _ => rfl
  · rw [refused, silent]
    rfl
  · rw [ended, silent]
    rfl

/-- A catalog at hand has nothing to report, and otherwise it is fetched. -/
theorem reports_orFetched (foreseen : world.IsForeseen) (source : Option Catalog) :
    (orFetched source).Reports world := by
  cases source with
  | none => exact reports_fetch foreseen none none
  | some catalog => exact Activity.reports_pure catalog

/-- Going through entries warns about nothing, though some of them are logged. -/
theorem reports_versionsOf (entries : Entries Text) : (versionsOf entries).Reports world := by
  -- The entry in front is passed over, listed, logged, or the end of it all.
  induction entries with
  | nil => exact Activity.reports_pure _
  | cons entry rest ih =>
    obtain ⟨key, build⟩ := entry
    rw [versionsOf]
    split
    · exact ih
    · split
      · exact ih.bind fun _ => Activity.reports_pure _
      · exact (Activity.reports_log _ (Or.inr Level.noConfusion)).bind fun _ => ih
      · exact Activity.reports_fail _

/-- Listing the releases reports what fetching the catalog does. -/
theorem reports_listReleases (foreseen : world.IsForeseen) (source : Option Catalog) :
    (listReleases source).Reports world :=
  (reports_orFetched foreseen source).bind fun _ =>
    (reports_versionsOf _).bind fun _ => Activity.reports_pure _

/-- Finding the releases in a range reports what fetching the catalog does. -/
theorem reports_matchingReleases (foreseen : world.IsForeseen) (offered : Offered)
    (source : Option Catalog) : (matchingReleases offered source).Reports world :=
  (reports_listReleases foreseen source).bind fun _ => Activity.reports_ofOutcome _

/-- Finding the latest release reports what fetching the catalog does. -/
theorem reports_latestRelease (foreseen : world.IsForeseen) (source : Option Catalog) :
    (latestRelease source).Reports world :=
  (reports_orFetched foreseen source).bind fun _ => Activity.reports_ofOutcome _

/-- Finding the build of a version text reports what fetching the catalog does. -/
theorem reports_resolve (foreseen : world.IsForeseen) (text : Text) (source : Option Catalog) :
    (resolve text source).Reports world :=
  (Activity.reports_ofOutcome _).bind fun _ =>
    (reports_orFetched foreseen source).bind fun _ => Activity.reports_ofOutcome _

/-- Finding the build of a given version reports what fetching the catalog does. -/
theorem reports_resolveGiven (foreseen : world.IsForeseen) (given : Json)
    (source : Option Catalog) : (resolveGiven given source).Reports world :=
  (Activity.reports_ofOutcome _).bind fun text => reports_resolve foreseen text source

/-- Finding the build of a version reports what fetching the catalog does. -/
theorem reports_resolveVersion (foreseen : world.IsForeseen) (version : Version) :
    (resolveVersion version).Reports world :=
  (Activity.reports_ofWriting _).bind fun text => reports_resolve foreseen text none

end Catalog

end SolcRelease
