import SolcRelease.Catalog.Fetch
import SolcRelease.Proofs.Activity
import SolcRelease.Proofs.Json.Writable

/-! Fetching the catalog: what one delivery of the transport comes to, in every case there is. -/

namespace SolcRelease

/-- A response reports a failure if its status is one of those that stand for failures. -/
def Response.Fails (response : Response) : Prop :=
  400 ≤ response.status ∧ response.status < 600

/-- The usual status of a success does not stand for a failure. -/
theorem Response.not_fails_ofUtf8 (body : Bytes) : ¬ (Response.ofUtf8 200 body).Fails :=
  fun fails => absurd fails.1 (by decide : ¬ (400 : Int) ≤ 200)

namespace Catalog

variable {url : Text} {room : Nat} {delivery : Delivery}

/-- What a delivery comes to when the catalog was asked for at an address. -/
def delivered (url : Text) (room : Nat) (delivery : Delivery) : Except Failure Catalog :=
  match membersOf room delivery with
  | .error (.inl fault) => .error (.refusal (.catalogUnavailable fault url))
  | .error (.inr failure) => .error failure
  | .ok members => Failure.ofWriting (ofMembers members)

/-- A response has a document, which is this value. -/
def HasDocument (room : Nat) (response : Response) (value : Json) : Prop :=
  ∃ text, response.source = .ok text ∧ Json.read room text = .ok value

/-- A delivery is a response that cannot be made out, and trying to do so ends in a fault. -/
inductive IsUnreadable (room : Nat) : Delivery → Fault → Prop where
  /-- It reports a failure, and its text, which would be told along, cannot be made out. -/
  | text {response : Response} {fault : Fault} (bad : response.Fails)
      (failed : response.text = .error fault) : IsUnreadable room (.response response) fault
  /-- It reports none, and looking for the text of its document ends in the fault. -/
  | source {response : Response} {fault : Fault} (good : ¬ response.Fails)
      (failed : response.source = .error (.broken fault)) :
      IsUnreadable room (.response response) fault
  /-- It reports none, and an enclosure of its document lies too deep in others. -/
  | tooDeep {response : Response} {text : Text} {enclosure : Json.Enclosure}
      (good : ¬ response.Fails) (found : response.source = .ok text)
      (deep : Json.read room text = .error (.tooDeep enclosure)) :
      IsUnreadable room (.response response) (.documentTooDeep enclosure)

/-- What comes of a response that is searched for the members of a document, in every way it can. -/
inductive Yields (room : Nat) (response : Response) :
    Except (CatalogFault ⊕ Failure) (Entries Json) → Prop where
  /-- It reports a failure, which is told along with its text. -/
  | badStatus {text : Text} (bad : response.Fails)
      (told : response.text = .ok text) :
      Yields room response (.error (.inl (.badStatus response.status text)))
  /-- There is no text to read a document from. -/
  | noText {kind message : Text} (good : ¬ response.Fails)
      (failed : response.source = .error (.noText kind message)) :
      Yields room response (.error (.inl (.notJson response.status (.noText kind message))))
  /-- The text is no document, and that is not for its depth. -/
  | notJson {text : Text} {failure : Json.ReadFailure} (good : ¬ response.Fails)
      (found : response.source = .ok text) (bad : Json.read room text = .error failure)
      (flat : ∀ enclosure, failure ≠ .tooDeep enclosure) :
      Yields room response (.error (.inl (.notJson response.status (.unreadable failure))))
  /-- The document is no object. -/
  | notObject {value : Json} (good : ¬ response.Fails)
      (document : HasDocument room response value) (other : ∀ members, value ≠ .object members) :
      Yields room response (.error (.inl (.notObject response.status)))
  /-- It cannot be made out. -/
  | fault {fault : Fault} (unreadable : IsUnreadable room (.response response) fault) :
      Yields room response (.error (.inr (.fault fault)))
  /-- The document is an object, which has the members. -/
  | members {members : Entries Json} (good : ¬ response.Fails)
      (document : HasDocument room response (.object members)) :
      Yields room response (.ok members)

/-- A status is good unless it stands for a failure. -/
theorem isGoodStatus_iff {response : Response} :
    isGoodStatus response.status = true ↔ ¬ response.Fails := by
  simp only [isGoodStatus, Response.Fails, Bool.not_eq_true', Bool.and_eq_false_iff,
    decide_eq_false_iff_not]
  omega

/-- What comes of a response is the one thing that it yields. -/
theorem yields_iff {response : Response}
    {result : Except (CatalogFault ⊕ Failure) (Entries Json)} :
    Yields room response result ↔ membersOf room (.response response) = result := by
  constructor
  · intro yields
    cases yields with
    | badStatus bad told => simp [membersOf, isGoodStatus_iff, bad, told]
    | noText good failed => simp [membersOf, membersIn, isGoodStatus_iff, good, failed]
    | notJson good found bad flat =>
      rename_i failure
      cases failure with
      | tooDeep enclosure => exact absurd rfl (flat enclosure)
      | _ => simp [membersOf, membersIn, isGoodStatus_iff, good, found, bad]
    | notObject good document other =>
      rename_i value
      obtain ⟨text, found, read⟩ := document
      cases value with
      | object members => exact absurd rfl (other members)
      | _ => simp [membersOf, membersIn, isGoodStatus_iff, good, found, read]
    | fault unreadable =>
      -- No step on the way turns the fault into a refusal.
      cases unreadable with
      | text bad failed => simp [membersOf, isGoodStatus_iff, bad, failed]
      | source good failed => simp [membersOf, membersIn, isGoodStatus_iff, good, failed]
      | tooDeep good found deep => simp [membersOf, membersIn, isGoodStatus_iff, good, found, deep]
    | members good document =>
      obtain ⟨text, found, read⟩ := document
      simp [membersOf, membersIn, isGoodStatus_iff, good, found, read]
  · rintro rfl
    unfold membersOf membersIn
    -- The status is looked at first, then the text, and at last what document it is.
    dsimp only
    split
    · rename_i status
      have good := isGoodStatus_iff.mp status
      split
      · exact .fault (.source good ‹_›)
      · exact .noText good ‹_›
      · rename_i text found
        split
        · exact .fault (.tooDeep good found ‹_›)
        · rename_i failure flat stuck
          exact .notJson good found stuck flat
        · exact .members good ⟨text, found, ‹_›⟩
        · rename_i value other read
          exact .notObject good ⟨text, found, read⟩ other
    · rename_i status
      have bad : response.Fails := not_not.mp (mt isGoodStatus_iff.mpr status)
      split
      · exact .badStatus bad ‹_›
      · exact .fault (.text bad ‹_›)

section Fetching

variable (world : World) (journal : Journal)

/-- Fetching comes to what the next delivery comes to, whatever is logged about it. -/
@[simp] theorem outcome_fetch (url : Option Text) (timeout : Option Seconds) :
    (fetch url timeout).outcome world journal =
      delivered (url.getD (urlOf world.settings)) world.room.catalog
        (world.transport journal.inquiries.length) := by
  simp only [fetch, delivered, Activity.outcome_bind, Activity.outcome_settings,
    Activity.after_settings, Activity.outcome_fetch, Activity.outcome_room, Outcome.ok_bind]
  cases membersOf world.room.catalog (world.transport journal.inquiries.length) with
  | ok members =>
    simp only [Activity.outcome_bind, Activity.outcome_ofWriting, Activity.outcome_log,
      Activity.outcome_pure, Outcome.ok_bind]
    cases ofMembers members <;> rfl
  | error failure =>
    cases failure with
    | inl fault =>
      -- Some faults are logged and some are not, and all are refused alike.
      simp only
      cases warning? (url.getD (urlOf world.settings)) fault <;> rfl
    | inr failure => rfl

end Fetching

section Documents

/-- The releases in a document have builds, since each value that is no null has a text. -/
theorem exists_releasesOf {members : List (Text × Json)}
    (short : Json.haveWritable members = true) : ∃ releases, releasesOf members = .ok releases := by
  -- The cases are those of the collection: no member, a null, and any other value.
  induction members using releasesOf.induct with
  | case1 => exact ⟨[], rfl⟩
  | case2 key rest ih =>
    -- A null is no release, and leaves the others.
    rw [Json.haveWritable, Bool.and_eq_true] at short
    exact ih short.2
  | case3 key value rest notNull ih =>
    rw [Json.haveWritable, Bool.and_eq_true] at short
    obtain ⟨build, plain⟩ := Json.plain_of_isWritable short.1
    obtain ⟨releases, found⟩ := ih short.2
    exact ⟨(key, build) :: releases, by simp [releasesOf, plain, found]⟩

/-- The value under a name can be written if the whole object can. -/
theorem isWritable_of_get? {members : Entries Json} {name : Text} {value : Json}
    (short : Json.haveWritable members = true) (found : members.get? name = some value) :
    value.isWritable = true := by
  -- What is found under a name is the value of a member.
  obtain ⟨before, after, rfl, -⟩ := List.lookup_eq_some_iff.mp found
  exact Json.haveWritable_iff.mp short (name, value) (by simp)

/-- A document whose integers are short enough is a catalog. -/
theorem exists_ofMembers {members : Entries Json} (short : Json.haveWritable members = true) :
    ∃ catalog, ofMembers members = .ok catalog := by
  -- Releases are taken from an object alone, whose values all have texts.
  have builds {inner : List (Text × Json)}
      (found : members.get? "releases" = some (.object inner)) :
      ∃ releases, releasesOf inner = .ok releases := by
    have able := isWritable_of_get? short found
    rw [Json.isWritable] at able
    exact exists_releasesOf able
  cases latest : members.get? "latestRelease" with
  | none =>
    simp only [ofMembers, latest]
    split
    · obtain ⟨releases, made⟩ := builds ‹_›
      exact ⟨⟨releases, []⟩, by simp [made]⟩
    · exact ⟨⟨[], []⟩, rfl⟩
  | some value =>
    obtain ⟨text, plain⟩ := Json.plain_of_isWritable (isWritable_of_get? short latest)
    simp only [ofMembers, latest, plain]
    split
    · obtain ⟨releases, made⟩ := builds ‹_›
      cases void : value.isVoid
      · exact ⟨⟨releases, text⟩, by simp [made]⟩
      · exact ⟨⟨releases, []⟩, by simp [made]⟩
    · cases value.isVoid
      · exact ⟨⟨[], text⟩, rfl⟩
      · exact ⟨⟨[], []⟩, rfl⟩

/-- A response that cannot be made out is a fault and no refusal. -/
theorem delivered_of_isUnreadable {fault : Fault} (unreadable : IsUnreadable room delivery fault) :
    delivered url room delivery = .error (.fault fault) := by
  cases delivery with
  | response response => rw [delivered, yields_iff.mp (.fault unreadable)]
  | unreachable kind message => cases unreadable
  | broken failure => cases unreadable

/-- The members that are delivered are those of an object in a response that is no failure. -/
theorem membersOf_eq_ok_iff {members : Entries Json} :
    membersOf room delivery = .ok members ↔
      ∃ response, delivery = .response response ∧ ¬ response.Fails ∧
        HasDocument room response (.object members) := by
  constructor
  · intro found
    cases delivery with
    | response response =>
      cases yields_iff.mpr found with
      | members good document => exact ⟨response, rfl, good, document⟩
    | unreachable kind message => cases found
    | broken failure => cases found
  · rintro ⟨response, rfl, good, document⟩
    exact yields_iff.mp (.members good document)

/-- The members of a delivered document have integers that are short enough. -/
theorem haveWritable_of_membersOf {members : Entries Json}
    (found : membersOf room delivery = .ok members) : Json.haveWritable members = true := by
  obtain ⟨response, -, -, text, -, read⟩ := membersOf_eq_ok_iff.mp found
  -- The reader holds every integer to the limit.
  have short := Json.isWritable_of_read read
  rwa [Json.isWritable] at short

/-- A catalog comes of the members that are delivered, whatever address was asked for them. -/
theorem delivered_eq_ok_iff {catalog : Catalog} :
    delivered url room delivery = .ok catalog ↔
      ∃ members, membersOf room delivery = .ok members ∧ ofMembers members = .ok catalog := by
  unfold delivered
  cases membersOf room delivery with
  | error failure => cases failure <;> simp
  | ok members => simp [Outcome.ofWriting_eq_ok_iff]

/-- A failure of a response that is no refusal is a fault, and the response cannot be made out. -/
theorem isUnreadable_of_membersOf {response : Response} {failure : Failure}
    (failed : membersOf room (.response response) = .error (.inr failure)) :
    ∃ fault, failure = .fault fault ∧ IsUnreadable room (.response response) fault := by
  cases yields_iff.mpr failed with
  | fault unreadable => exact ⟨_, rfl, unreadable⟩

/-- What a refused delivery tells for a status is a number, like the statuses of responses. -/
theorem exists_whole_of_membersOf {fault : CatalogFault} {status : Json}
    (refused : membersOf room delivery = .error (.inl fault))
    (told : fault.status? = some status) : ∃ number, status = .whole number := by
  cases delivery with
  | broken failure => cases refused
  | unreachable kind message =>
    -- Nothing arrived, so there is no status to tell of.
    cases refused
    cases told
  | response response =>
    cases yields_iff.mpr refused <;> exact ⟨_, (Option.some.inj told).symm⟩

/-- A delivery that fails in no foreign way is a catalog, is refused, or cannot be made out. -/
theorem delivered_cases (url : Text) (room : Nat)
    (proper : ∀ failure, delivery ≠ .broken failure) :
    (∃ catalog, delivered url room delivery = .ok catalog) ∨
      (∃ fault, membersOf room delivery = .error (.inl fault) ∧
        delivered url room delivery = .error (.refusal (.catalogUnavailable fault url))) ∨
      ∃ fault, IsUnreadable room delivery fault ∧
        delivered url room delivery = .error (.fault fault) := by
  cases found : membersOf room delivery with
  | ok members =>
    -- The integers of a document that was read are short enough to be texts.
    obtain ⟨catalog, made⟩ := exists_ofMembers (haveWritable_of_membersOf found)
    exact Or.inl ⟨catalog, delivered_eq_ok_iff.mpr ⟨members, found, made⟩⟩
  | error failure =>
    cases failure with
    | inl fault => exact Or.inr (Or.inl ⟨fault, rfl, by rw [delivered, found]⟩)
    | inr failure =>
      cases delivery with
      | unreachable kind message => cases found
      | broken other => exact absurd rfl (proper other)
      | response response =>
        obtain ⟨fault, rfl, unreadable⟩ := isUnreadable_of_membersOf found
        exact Or.inr (Or.inr ⟨fault, unreadable, delivered_of_isUnreadable unreadable⟩)

end Documents

end Catalog

end SolcRelease
