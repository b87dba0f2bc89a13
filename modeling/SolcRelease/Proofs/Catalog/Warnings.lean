import SolcRelease.Catalog.Lookup
import SolcRelease.Proofs.Catalog.Fetch
import SolcRelease.Proofs.Warnings

/-!
What is logged when the catalog is fetched: which failures are worth a warning and which stay
silent, and that nothing else that is done with catalogs warns about them.
-/

namespace SolcRelease

/-- A world is foreseen if its transport delivers responses, or tells why there is none. -/
def World.IsForeseen (world : World) : Prop :=
  ∀ number failure, world.transport number ≠ .broken failure

namespace Catalog

variable {url : Text} {room : Nat} {delivery : Delivery} {world : World} {journal : Journal}

section Fetching

/-- A delivery is no object if the document of its response is of another kind. -/
def IsNoObject (room : Nat) (delivery : Delivery) : Prop :=
  ∃ response value, delivery = .response response ∧ ¬ response.Fails ∧
    HasDocument room response value ∧ ∀ members, value ≠ .object members

/-- The warnings about a delivery when the catalog was asked for at an address. -/
def complaints (url : Text) (room : Nat) (delivery : Delivery) : List Record :=
  match membersOf room delivery with
  | .error (.inl fault) =>
    ((warning? url fault).map fun message => ⟨.catalog, .warning, message⟩).toList
  | _ => []

/-- Fetching asks for the catalog, and then complains about the delivery where it should. -/
theorem exists_after_fetch (source : Option Text) (timeout : Option Seconds) (world : World)
    (journal : Journal) :
    ∃ notes, (fetch source timeout).after world journal =
        journal ++ .fetched ⟨source.getD (urlOf world.settings),
          timeout.getD (timeoutOf world.settings)⟩ :: notes ∧
      Journal.inquiries notes = [] ∧
      Journal.warnings notes = complaints (source.getD (urlOf world.settings)) world.room.catalog
        (world.transport journal.inquiries.length) := by
  simp only [fetch, complaints, Activity.after_bind, Activity.outcome_settings,
    Activity.after_settings, Activity.outcome_fetch, Activity.after_fetch,
    Activity.outcome_room, Activity.after_room]
  cases membersOf world.room.catalog (world.transport journal.inquiries.length) with
  | ok members =>
    simp only [Activity.after_bind, Activity.outcome_ofWriting, Activity.after_ofWriting]
    cases made : ofMembers members with
    | ok catalog => exact ⟨_, List.append_assoc .., rfl, rfl⟩
    | error excess => exact ⟨[], rfl, rfl, rfl⟩
  | error failure =>
    cases failure with
    | inr failure => exact ⟨[], rfl, rfl, rfl⟩
    | inl fault =>
      simp only
      cases warning? (source.getD (urlOf world.settings)) fault with
      | none => exact ⟨[], rfl, rfl, rfl⟩
      | some message => exact ⟨_, List.append_assoc .., rfl, rfl⟩

/-- A refused response is worth a warning, or its document is no object. -/
theorem warned_or_isNoObject {response : Response} {fault : CatalogFault}
    (found : membersOf room (.response response) = .error (.inl fault)) :
    (∃ message, warning? url fault = some message) ∨
      ∃ status, fault = .notObject status ∧ IsNoObject room (.response response) := by
  cases yields_iff.mpr found with
  | badStatus bad told => exact Or.inl ⟨_, rfl⟩
  | noText good failed => exact Or.inl ⟨_, rfl⟩
  | notJson good source bad flat => exact Or.inl ⟨_, rfl⟩
  | notObject good document other =>
    -- The document is read, but its members are not there to be taken.
    exact Or.inr ⟨_, rfl, response, _, rfl, good, document, other⟩

/-- A foreseen delivery is a catalog, or is refused with a warning, or fails in silence. -/
theorem complaints_cases (url : Text) (room : Nat)
    (proper : ∀ failure, delivery ≠ .broken failure) :
    (∃ catalog, delivered url room delivery = .ok catalog ∧
      complaints url room delivery = []) ∨
    (∃ fault message, warning? url fault = some message ∧
      delivered url room delivery = .error (.refusal (.catalogUnavailable fault url)) ∧
      complaints url room delivery = [⟨.catalog, .warning, message⟩]) ∨
    (∃ status, IsNoObject room delivery ∧
      delivered url room delivery =
        .error (.refusal (.catalogUnavailable (.notObject status) url)) ∧
      complaints url room delivery = []) ∨
    ∃ fault, delivered url room delivery = .error (.fault fault) ∧
      complaints url room delivery = [] := by
  rcases delivery with response | ⟨kind, message⟩ | failure
  · cases found : membersOf room (.response response) with
    | ok members =>
      -- The integers of a document that was read are short enough to be texts.
      obtain ⟨catalog, made⟩ := exists_ofMembers (haveWritable_of_membersOf found)
      exact Or.inl ⟨catalog, delivered_eq_ok_iff.mpr ⟨members, found, made⟩,
        by rw [complaints, found]⟩
    | error failure =>
      rcases failure with fault | failure
      · have refused : delivered url room (.response response) =
            .error (.refusal (.catalogUnavailable fault url)) := by
          rw [delivered, found]
        have complained : complaints url room (.response response) =
            ((warning? url fault).map fun message => ⟨.catalog, .warning, message⟩).toList := by
          rw [complaints, found]
        rcases warned_or_isNoObject found with ⟨message, warns⟩ | ⟨status, rfl, noObject⟩
        · rw [warns] at complained
          exact Or.inr (Or.inl ⟨fault, message, warns, refused, complained⟩)
        · exact Or.inr (Or.inr (Or.inl ⟨status, noObject, refused, complained⟩))
      · obtain ⟨fault, rfl, -⟩ := isUnreadable_of_membersOf found
        exact Or.inr (Or.inr (Or.inr ⟨fault, by rw [delivered, found],
          by rw [complaints, found]⟩))
  · exact Or.inr (Or.inl ⟨_, _, rfl, rfl, rfl⟩)
  · exact absurd rfl (proper failure)

/-- What is no object is refused, and nothing is logged about it. -/
theorem delivered_of_isNoObject (url : Text) (noObject : IsNoObject room delivery) :
    (∃ status, delivered url room delivery =
      .error (.refusal (.catalogUnavailable (.notObject status) url))) ∧
      complaints url room delivery = [] := by
  obtain ⟨response, value, rfl, good, document, other⟩ := noObject
  have found : membersOf room (.response response) = .error (.inl (.notObject response.status)) :=
    yields_iff.mp (.notObject good document other)
  simp only [delivered, complaints, found]
  exact ⟨⟨response.status, rfl⟩, rfl⟩

/-- A fetch is logged as it should be: a refusal with one warning, and a catalog with none. -/
structure LogsOnce (source : Option Text) (timeout : Option Seconds) (world : World)
    (journal : Journal) : Prop where
  /-- Where the catalog cannot be had there is one warning, about the catalog. -/
  refused : ∀ fault url,
    (fetch source timeout).outcome world journal =
      .error (.refusal (.catalogUnavailable fault url)) →
    ∃ events message, (fetch source timeout).after world journal = journal ++ events ∧
      events.warnings = [⟨.catalog, .warning, message⟩]
  /-- Where the catalog can be had there is no warning. -/
  accepted : ∀ catalog, (fetch source timeout).outcome world journal = .ok catalog →
    ∃ events, (fetch source timeout).after world journal = journal ++ events ∧
      events.warnings = []

/-- A fetch is logged as it should be, unless what is delivered is no object. -/
theorem logsOnce_iff {source : Option Text} {timeout : Option Seconds}
    (proper : ∀ failure, world.transport journal.inquiries.length ≠ .broken failure) :
    LogsOnce source timeout world journal ↔
      ¬ IsNoObject world.room.catalog (world.transport journal.inquiries.length) := by
  obtain ⟨notes, after, -, warned⟩ := exists_after_fetch source timeout world journal
  constructor
  · intro logs noObject
    obtain ⟨⟨status, refused⟩, silent⟩ :=
      delivered_of_isNoObject (source.getD (urlOf world.settings)) noObject
    obtain ⟨events, message, same, warns⟩ := logs.refused _ _ (by rw [outcome_fetch, refused])
    -- The warning would be among the notes, and these have none.
    rw [after, List.append_cancel_left_eq] at same
    rw [← same, Journal.warnings_fetched, warned, silent] at warns
    cases warns
  · intro object
    constructor
    · -- A refusal that is not about the kind of document has its warning.
      intro fault url refused
      rw [outcome_fetch] at refused
      rcases complaints_cases (source.getD (urlOf world.settings)) world.room.catalog proper with
        ⟨catalog, other, -⟩ | ⟨_, message, -, -, complaint⟩ | ⟨_, noObject, -⟩ | ⟨_, other, -⟩
      · rw [refused] at other
        cases other
      · exact ⟨_, message, after, by rw [Journal.warnings_fetched, warned, complaint]⟩
      · exact absurd noObject object
      · rw [refused] at other
        cases other
    · -- A catalog excludes the one case in which there is a warning.
      intro catalog made
      rw [outcome_fetch] at made
      rcases complaints_cases (source.getD (urlOf world.settings)) world.room.catalog proper with
        ⟨_, -, silent⟩ | ⟨_, _, -, other, -⟩ | ⟨_, -, -, silent⟩ | ⟨_, -, silent⟩
      · exact ⟨_, after, by rw [Journal.warnings_fetched, warned, silent]⟩
      · rw [made] at other
        cases other
      · exact ⟨_, after, by rw [Journal.warnings_fetched, warned, silent]⟩
      · exact ⟨_, after, by rw [Journal.warnings_fetched, warned, silent]⟩

end Fetching

end Catalog

end SolcRelease
