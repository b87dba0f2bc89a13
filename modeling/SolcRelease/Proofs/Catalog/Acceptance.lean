import SolcRelease.Proofs.Catalog.Fetch

/-! Which deliveries are accepted as catalogs: successes are meant to be, and some others are. -/

namespace SolcRelease

namespace Catalog

variable {url : Text} {room : Nat} {delivery : Delivery}

/-- A delivery is a success if its response reports one and has a JSON object for its document. -/
def IsSuccess (room : Nat) (delivery : Delivery) : Prop :=
  ∃ response members, delivery = .response response ∧
    200 ≤ response.status ∧ response.status < 300 ∧ HasDocument room response (.object members)

/-- A delivery is stray if its document is that of a success, and its status of neither kind. -/
def IsStray (room : Nat) (delivery : Delivery) : Prop :=
  ∃ response members, delivery = .response response ∧
    ¬ (200 ≤ response.status ∧ response.status < 300) ∧
    ¬ (400 ≤ response.status ∧ response.status < 600) ∧
    HasDocument room response (.object members)

/-- What should become of a delivery: a catalog comes of a success and of nothing else. -/
structure AcceptsOnlySuccess (url : Text) (room : Nat) (delivery : Delivery)
    (result : Except Failure Catalog) : Prop where
  /-- A catalog comes of a success, and of a success alone. -/
  accepted : (∃ catalog, result = .ok catalog) ↔ IsSuccess room delivery
  /-- Whatever else the transport has to say for itself is refused. -/
  refused : ¬ IsSuccess room delivery → (∀ failure, delivery ≠ .broken failure) →
    ∃ fault, result = .error (.refusal (.catalogUnavailable fault url))
  /-- A failure of another nature is passed on as it is. -/
  foreign : ∀ failure, delivery = .broken failure → result = .error failure

/-- A catalog comes of a delivery if it is a success or a stray one. -/
theorem exists_delivered_iff :
    (∃ catalog, delivered url room delivery = .ok catalog) ↔
      IsSuccess room delivery ∨ IsStray room delivery := by
  constructor
  · intro ⟨catalog, made⟩
    obtain ⟨members, found, -⟩ := delivered_eq_ok_iff.mp made
    obtain ⟨response, same, good, document⟩ := membersOf_eq_ok_iff.mp found
    -- The status of the response is no failure's, so it is a success's or neither.
    by_cases success : 200 ≤ response.status ∧ response.status < 300
    · exact Or.inl ⟨response, members, same, success.1, success.2, document⟩
    · exact Or.inr ⟨response, members, same, success, good, document⟩
  · intro either
    -- Either way there are members in a response that is no failure.
    have found : ∃ members, membersOf room delivery = .ok members := by
      rcases either with ⟨response, members, same, least, most, document⟩ |
        ⟨response, members, same, -, outside, document⟩
      · have good : ¬ response.Fails := by
          rw [Response.Fails]
          omega
        exact ⟨members, membersOf_eq_ok_iff.mpr ⟨response, same, good, document⟩⟩
      · exact ⟨members, membersOf_eq_ok_iff.mpr ⟨response, same, outside, document⟩⟩
    obtain ⟨members, found⟩ := found
    obtain ⟨catalog, made⟩ := exists_ofMembers (haveWritable_of_membersOf found)
    exact ⟨catalog, delivered_eq_ok_iff.mpr ⟨members, found, made⟩⟩

/-- A delivery that cannot be made out is no success. -/
theorem not_isSuccess_of_isUnreadable {fault : Fault}
    (unreadable : IsUnreadable room delivery fault) : ¬ IsSuccess room delivery := by
  intro success
  -- A catalog would come of it, and yet it comes to a fault.
  have accepted : ∃ catalog, delivered officialUrl room delivery = .ok catalog :=
    exists_delivered_iff.mpr (Or.inl success)
  obtain ⟨catalog, made⟩ := accepted
  rw [delivered_of_isUnreadable unreadable] at made
  cases made

/-- A delivery is treated as it should be, unless it is stray or cannot be made out. -/
theorem acceptsOnlySuccess_delivered_iff :
    AcceptsOnlySuccess url room delivery (delivered url room delivery) ↔
      ¬ IsStray room delivery ∧ ∀ fault, ¬ IsUnreadable room delivery fault := by
  constructor
  · intro proper
    refine ⟨?_, ?_⟩
    · intro stray
      -- A catalog comes of it, and yet its status is not that of a success.
      have success := proper.accepted.mp (exists_delivered_iff.mpr (Or.inr stray))
      obtain ⟨response, members, rfl, least, most, -⟩ := success
      obtain ⟨other, -, delivers, outside, -⟩ := stray
      cases delivers
      exact outside ⟨least, most⟩
    · intro fault unreadable
      have foreseen : ∀ failure, delivery ≠ .broken failure := by
        rintro failure rfl
        cases unreadable
      -- It is no success, but what it comes to is no refusal either.
      obtain ⟨cause, refused⟩ := proper.refused (not_isSuccess_of_isUnreadable unreadable) foreseen
      rw [delivered_of_isUnreadable unreadable] at refused
      cases refused
  · intro ⟨notStray, readable⟩
    have accepted : (∃ catalog, delivered url room delivery = .ok catalog) ↔
        IsSuccess room delivery := by
      rw [exists_delivered_iff, or_iff_left notStray]
    refine ⟨accepted, ?_, ?_⟩
    · intro unsuccessful foreseen
      rcases delivered_cases url room foreseen with
        made | ⟨fault, -, refused⟩ | ⟨fault, unreadable, -⟩
      · exact absurd (accepted.mp made) unsuccessful
      · exact ⟨fault, refused⟩
      · exact absurd unreadable (readable fault)
    · rintro failure rfl
      rfl

/--
Fetching accepts nothing but a success, save where the delivery is stray, of which a catalog comes,
or where it cannot be made out, which is a fault.
-/
theorem fetch_acceptsOnlySuccess_iff (source : Option Text) (timeout : Option Seconds)
    (world : World) (journal : Journal) :
    (AcceptsOnlySuccess (source.getD (urlOf world.settings)) world.room.catalog
        (world.transport journal.inquiries.length)
        ((fetch source timeout).outcome world journal) ↔
      ¬ IsStray world.room.catalog (world.transport journal.inquiries.length) ∧
        ∀ fault,
          ¬ IsUnreadable world.room.catalog (world.transport journal.inquiries.length) fault) ∧
    (IsStray world.room.catalog (world.transport journal.inquiries.length) →
      ∃ catalog, (fetch source timeout).outcome world journal = .ok catalog) ∧
    ∀ fault, IsUnreadable world.room.catalog (world.transport journal.inquiries.length) fault →
      (fetch source timeout).outcome world journal = .error (.fault fault) := by
  rw [outcome_fetch]
  refine ⟨acceptsOnlySuccess_delivered_iff, ?_, ?_⟩
  · intro stray
    exact exists_delivered_iff.mpr (Or.inr stray)
  · intro fault unreadable
    exact delivered_of_isUnreadable unreadable

/-- A world whose transport says that the catalog has not changed, with an empty object. -/
def unmodified : World :=
  ⟨Settings.unset, fun _ => .response (.ofUtf8 304 (Utf8.encode "\x7b\x7d")), .hundred, 0, [],
    fun _ => false⟩

/-- A catalog comes of a response that reports no success. -/
theorem not_acceptsOnlySuccess_unmodified :
    ¬ AcceptsOnlySuccess officialUrl unmodified.room.catalog (unmodified.transport 0)
      ((fetch none none).outcome unmodified []) := by
  have read : Json.read unmodified.room.catalog (Utf8.decodeLenient (Utf8.encode "\x7b\x7d")) =
      .ok (.object []) := by
    with_unfolding_all rfl
  have stray : IsStray unmodified.room.catalog (unmodified.transport 0) :=
    ⟨_, [], rfl, by decide, by decide, _, rfl, read⟩
  intro proper
  rw [outcome_fetch] at proper
  exact (acceptsOnlySuccess_delivered_iff.mp proper).1 stray

end Catalog

end SolcRelease
