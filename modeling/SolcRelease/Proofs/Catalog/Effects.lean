import SolcRelease.Catalog.Lookup
import SolcRelease.Proofs.Effects

/-! What getting a catalog and looking things up in it does to the world outside. -/

namespace SolcRelease

namespace Catalog

variable {world : World} {effects : Journal} {source : Option Catalog}

/-- The event of asking for the catalog in the way that the settings tell. -/
def asked (settings : Settings) : Event :=
  .fetched ⟨urlOf settings, timeoutOf settings⟩

/-- Fetching asks for the catalog once, whatever is delivered. -/
theorem causes_fetch (url : Option Text) (timeout : Option Seconds) (world : World) :
    (fetch url timeout).Causes world
      [.fetched ⟨url.getD (urlOf world.settings), timeout.getD (timeoutOf world.settings)⟩] := by
  refine Activity.causes_settings.bind_value (Activity.outcome_settings world) ?_
  refine (Activity.causes_fetch _).bind_nothing fun delivery => ?_
  refine Activity.causes_room.bind_nothing fun room => ?_
  -- What is left to do is to log and to fail, or to log and to give the catalog.
  split
  · dsimp only
    split
    · exact (Activity.causes_log _ _ _).bind_nothing fun _ => Activity.causes_fail _
    · exact Activity.causes_fail _
  · exact Activity.causes_fail _
  · exact (Activity.causes_ofWriting _).bind_nothing fun _ =>
      (Activity.causes_log _ _ _).bind_nothing fun _ => Activity.causes_pure _

/-- A catalog at hand is taken without effects. -/
theorem causes_orFetched_some (catalog : Catalog) : (orFetched (some catalog)).Causes world [] :=
  Activity.causes_pure catalog

/-- Where no catalog is at hand it is asked for in the way that the settings tell. -/
theorem causes_orFetched_none (world : World) :
    (orFetched none).Causes world [asked world.settings] :=
  causes_fetch none none world

/-- Going through entries has no effects, though some of them are logged. -/
theorem causes_versionsOf (entries : Entries Text) : (versionsOf entries).Causes world [] := by
  -- The entry in front is passed over, listed, logged, or the end of it all.
  induction entries with
  | nil => exact Activity.causes_pure _
  | cons entry rest ih =>
    obtain ⟨key, build⟩ := entry
    rw [versionsOf]
    split
    · exact ih
    · split
      · exact ih.bind_nothing fun _ => Activity.causes_pure _
      · exact (Activity.causes_log _ _ _).bind_nothing fun _ => ih
      · exact Activity.causes_fail _

/-- The releases in a range are found with the effects of getting the catalog. -/
theorem causes_matchingReleases (offered : Offered)
    (getting : (orFetched source).Causes world effects) :
    (matchingReleases offered source).Causes world effects := by
  have listing : (listReleases source).Causes world effects :=
    getting.bind_nothing fun _ =>
      (causes_versionsOf _).bind_nothing fun _ => Activity.causes_pure _
  exact listing.bind_nothing fun _ => Activity.causes_ofOutcome _

/-- The build of a version is found with the effects of getting the catalog. -/
theorem causes_resolve {text : Text} (getting : (orFetched source).Causes world effects)
    (needless : ∀ failure, Version.ofText text = .error failure → effects = []) :
    (resolve text source).Causes world effects :=
  Activity.causes_ofOutcome_bind
    (fun _ _ => getting.bind_nothing fun _ => Activity.causes_ofOutcome _) needless

end Catalog

end SolcRelease
