import Mathlib.Data.List.Lex
import SolcRelease.Proofs.Json.Depth

/-!
Values that cannot be written: the failure is the first on the way through the value, in which items
come in their order and members in the order of their names.
-/

namespace SolcRelease

namespace Json

/-- A name comes before another, by their code points. -/
def Precedes (name other : Text) : Prop :=
  List.Lex (· < ·) (name.map CodePoint.toNat) (other.map CodePoint.toNat)

/-- A value can be written where there is room for so many enclosures. -/
def Fits (room : Nat) (value : Json) : Prop :=
  value.isWritable = true ∧ value.depth ≤ room

/-- Writing a value where there is room for so many enclosures stops with its first failure. -/
inductive Stops : Nat → Json → WriteFailure → Prop where
  /-- An integer has too many digits. -/
  | long {room : Nat} {value : Int} (long : digitLimit < (Decimal.digits value.natAbs).length) :
      Stops room (.whole value) .tooManyDigits
  /-- There is no room for an array. -/
  | array {items : List Json} : Stops 0 (.array items) .tooDeep
  /-- There is no room for an object. -/
  | object {members : List (Text × Json)} : Stops 0 (.object members) .tooDeep
  /-- In an array it stops at an item, and not at those before it. -/
  | item {room : Nat} {before after : List Json} {item : Json} {failure : WriteFailure}
      (fit : ∀ other ∈ before, Fits room other) (stops : Stops room item failure) :
      Stops (room + 1) (.array (before ++ item :: after)) failure
  /-- In an object it stops at a member, and not at those whose names come before it. -/
  | member {room : Nat} {before after : List (Text × Json)} {name : Text} {value : Json}
      {failure : WriteFailure}
      (behind : ∀ other ∈ before, Fits room other.2 ∨ Precedes name other.1)
      (ahead : ∀ other ∈ after, Fits room other.2 ∨ ¬ Precedes other.1 name)
      (stops : Stops room value failure) :
      Stops (room + 1) (.object (before ++ (name, value) :: after)) failure

section Names

variable {name other : Text} {first : Text × WriteFailure}
  {failures before after : List (Text × WriteFailure)}

/-- Names are compared by their code points. -/
theorem precedes_iff : precedes name other = true ↔ Precedes name other := by
  simp [precedes, Precedes]

/-- Of two names only one comes before the other. -/
theorem Precedes.not_precedes (sooner : Precedes name other) : ¬ Precedes other name :=
  asymm_of (List.Lex (· < ·)) sooner

/-- Whatever name stands between two, it comes after the one or before the other. -/
theorem Precedes.either (sooner : Precedes name other) (middle : Text) :
    Precedes name middle ∨ Precedes middle other := by
  have connected : IsOrderConnected (List Nat) (List.Lex (· < ·)) := inferInstance
  exact connected.conn _ _ _ sooner

/-- The first failure by name comes before those that are listed before it. -/
theorem exists_of_firstByName (found : firstByName failures = some first) :
    ∃ before after, failures = before ++ first :: after ∧
      (∀ other ∈ before, Precedes first.1 other.1) ∧
        ∀ other ∈ after, ¬ Precedes other.1 first.1 := by
  -- Each failure is compared with the first by name of those listed after it.
  induction failures generalizing first with
  | nil => cases found
  | cons failure rest ih =>
    cases least : firstByName rest with
    | none =>
      rw [firstByName, least] at found
      cases found
      rw [firstByName_eq_none_iff.mp least]
      exact ⟨[], [], rfl, by simp, by simp⟩
    | some other =>
      obtain ⟨before, after, rfl, behind, ahead⟩ := ih least
      by_cases sooner : Precedes other.1 failure.1
      · simp only [firstByName, least, precedes_iff.mpr sooner, if_true] at found
        cases found
        exact ⟨failure :: before, after, rfl, List.forall_mem_cons.mpr ⟨sooner, behind⟩, ahead⟩
      · simp only [firstByName, least, mt precedes_iff.mp sooner] at found
        cases found
        refine ⟨[], before ++ other :: after, rfl, by simp, fun later member less => ?_⟩
        -- The later one would come before the least of the rest, or that before the failure.
        rcases less.either other.1 with least | least
        · rcases List.mem_append.mp member with earlier | later
          · exact (behind _ earlier).not_precedes least
          · rcases List.mem_cons.mp later with rfl | later
            · exact sooner less
            · exact ahead _ later least
        · exact sooner least

/-- A failure is the first by name if its name comes before all in front, and after none behind. -/
theorem firstByName_append (behind : ∀ other ∈ before, Precedes first.1 other.1)
    (ahead : ∀ other ∈ after, ¬ Precedes other.1 first.1) :
    firstByName (before ++ first :: after) = some first := by
  induction before with
  | nil =>
    rw [List.nil_append, firstByName]
    cases least : firstByName after with
    | none => rfl
    | some other =>
      -- The first by name of those after it is one of them, so it does not come before it.
      obtain ⟨front, back, rfl, -⟩ := exists_of_firstByName least
      have later := ahead other (by simp)
      simp only [if_neg (mt precedes_iff.mp later)]
  | cons failure rest ih =>
    rw [List.forall_mem_cons] at behind
    rw [List.cons_append, firstByName, ih behind.2]
    simp only [if_pos (precedes_iff.mpr behind.1)]

end Names

section Values

variable {room : Nat} {value : Json} {failure : WriteFailure}

/-- A value fits if nothing keeps it from being written. -/
theorem fits_iff : Fits room value ↔ unwritable? room value = none :=
  (unwritable?_eq_none_iff room value).symm

/-- The first failure among items is the one of the first item that has one. -/
theorem unwritableItem?_eq (room : Nat) (items : List Json) :
    unwritableItem? room items = items.findSome? (unwritable? room) := by
  induction items with
  | nil => rw [unwritableItem?, List.findSome?_nil]
  | cons item rest ih =>
    rw [unwritableItem?, ih, List.findSome?_cons]
    cases unwritable? room item <;> rfl

/-- The failures of members are those of the members whose values have one. -/
theorem unwritableMembers_eq (room : Nat) (members : List (Text × Json)) :
    unwritableMembers room members =
      members.filterMap fun member => (unwritable? room member.2).map (Prod.mk member.1) := by
  induction members with
  | nil => rw [unwritableMembers, List.filterMap_nil]
  | cons member rest ih =>
    rw [unwritableMembers, ih, List.filterMap_cons]
    cases unwritable? room member.2 <;> rfl

/-- The value of a member fits, or there is a failure under the member's name. -/
theorem fits_or_mem_unwritableMembers {members : List (Text × Json)} {member : Text × Json}
    (listed : member ∈ members) :
    Fits room member.2 ∨ ∃ failure, (member.1, failure) ∈ unwritableMembers room members := by
  rw [fits_iff, unwritableMembers_eq]
  cases stuck : unwritable? room member.2 with
  | none => exact Or.inl rfl
  | some failure =>
    refine Or.inr ⟨failure, List.mem_filterMap.mpr ⟨member, listed, ?_⟩⟩
    rw [stuck, Option.map_some]

/-- A failure of members is under the name of one whose value does not fit. -/
theorem exists_of_mem_unwritableMembers {members : List (Text × Json)}
    {failed : Text × WriteFailure} (isFailed : failed ∈ unwritableMembers room members) :
    ∃ member ∈ members, member.1 = failed.1 ∧ ¬ Fits room member.2 := by
  rw [unwritableMembers_eq] at isFailed
  obtain ⟨member, listed, same⟩ := List.mem_filterMap.mp isFailed
  obtain ⟨failure, stuck, rfl⟩ := Option.map_eq_some_iff.mp same
  refine ⟨member, listed, rfl, fun fits => ?_⟩
  cases (fits_iff.mp fits).symm.trans stuck

/-- Where writing stops with a failure, that keeps the value from being written. -/
theorem unwritable?_of_stops (stops : Stops room value failure) :
    unwritable? room value = some failure := by
  induction stops with
  | long long => rw [unwritable?, if_neg (Nat.not_le.mpr long)]
  | array => rw [unwritable?]
  | object => rw [unwritable?]
  | item fit stops ih =>
    rw [unwritable?, unwritableItem?_eq, List.findSome?_eq_some_iff]
    exact ⟨_, _, _, rfl, ih, fun other member => fits_iff.mp (fit other member)⟩
  | @member room before after name value failure behind ahead stops ih =>
    -- Among the failures of the members, the one under the name is the first.
    have first : firstByName (unwritableMembers room before ++
        (name, failure) :: unwritableMembers room after) = some (name, failure) := by
      refine firstByName_append ?_ ?_
      · intro failed isFailed
        obtain ⟨member, listed, same, unfit⟩ := exists_of_mem_unwritableMembers isFailed
        rw [← same]
        exact (behind member listed).resolve_left unfit
      · intro failed isFailed
        obtain ⟨member, listed, same, unfit⟩ := exists_of_mem_unwritableMembers isFailed
        rw [← same]
        exact (ahead member listed).resolve_left unfit
    have split : unwritableMembers room (before ++ (name, value) :: after) =
        unwritableMembers room before ++ (name, failure) :: unwritableMembers room after := by
      simp only [unwritableMembers_eq, List.filterMap_append, List.filterMap_cons, ih,
        Option.map_some]
    rw [unwritable?, split, first]
    rfl

mutual

/-- If something keeps a value from being written, writing it stops with that failure. -/
theorem stops_of_unwritable? : ∀ (value : Json) {room : Nat} {failure : WriteFailure},
    unwritable? room value = some failure → Stops room value failure
  | .null, _, _, found | .bool _, _, _, found | .real _, _, _, found | .string _, _, _, found => by
    simp [unwritable?] at found
  | .whole value, room, failure, found => by
    rw [unwritable?] at found
    split at found
    · cases found
    · cases found
      exact .long (by omega)
  | .array items, 0, failure, found => by
    rw [unwritable?] at found
    cases found
    exact .array
  | .array items, room + 1, failure, found => by
    rw [unwritable?, unwritableItem?_eq, List.findSome?_eq_some_iff] at found
    obtain ⟨before, item, after, same, stuck, fit⟩ := found
    have stops := stops_of_item items item (by simp [same]) stuck
    rw [same]
    exact .item (fun other member => fits_iff.mpr (fit other member)) stops
  | .object members, 0, failure, found => by
    rw [unwritable?] at found
    cases found
    exact .object
  | .object members, room + 1, failure, found => by
    rw [unwritable?, Option.map_eq_some_iff] at found
    obtain ⟨first, least, rfl⟩ := found
    obtain ⟨front, back, split, behind, ahead⟩ := exists_of_firstByName least
    -- The failures are cut where the first of them is, and so are the members they come from.
    rw [unwritableMembers_eq, List.filterMap_eq_append_iff] at split
    obtain ⟨before, rest, isWhole, isFront, isRest⟩ := split
    obtain ⟨between, member, after, isCut, free, isFirst, isBack⟩ :=
      List.filterMap_eq_cons_iff.mp isRest
    obtain ⟨failure, stuck, rfl⟩ := Option.map_eq_some_iff.mp isFirst
    have whole : members = (before ++ between) ++ (member.1, member.2) :: after := by
      rw [isWhole, isCut, List.append_assoc]
    have stops := stops_of_member members member (by simp [whole]) stuck
    rw [← unwritableMembers_eq] at isFront isBack
    rw [whole]
    refine .member (fun other listed => ?_) (fun other listed => ?_) stops
    · rcases List.mem_append.mp listed with early | late
      · rcases fits_or_mem_unwritableMembers early with fits | ⟨failure, failed⟩
        · exact Or.inl fits
        · exact Or.inr (behind _ (isFront ▸ failed))
      · -- Between the failures before it and this one there are none.
        exact Or.inl (fits_iff.mpr (Option.map_eq_none_iff.mp (free other late)))
    · rcases fits_or_mem_unwritableMembers listed with fits | ⟨failure, failed⟩
      · exact Or.inl fits
      · exact Or.inr (ahead _ (isBack ▸ failed))

/-- If something keeps an item from being written, writing it stops with that failure. -/
theorem stops_of_item : ∀ (items : List Json), ∀ item ∈ items, ∀ {room : Nat}
    {failure : WriteFailure}, unwritable? room item = some failure → Stops room item failure
  | [], _, member, _, _, _ => by cases member
  | item :: rest, other, member, _, _, found => by
    rcases List.mem_cons.mp member with same | later
    · rw [same] at found ⊢
      exact stops_of_unwritable? item found
    · exact stops_of_item rest other later found

/-- If something keeps a member's value from being written, writing it stops with that failure. -/
theorem stops_of_member : ∀ (members : List (Text × Json)), ∀ member ∈ members, ∀ {room : Nat}
    {failure : WriteFailure}, unwritable? room member.2 = some failure →
      Stops room member.2 failure
  | [], _, member, _, _, _ => by cases member
  | (name, value) :: rest, other, member, _, _, found => by
    rcases List.mem_cons.mp member with same | later
    · rw [same] at found ⊢
      exact stops_of_unwritable? value found
    · exact stops_of_member rest other later found

end

/-- What keeps a value from being written is the failure with which writing it stops. -/
theorem unwritable?_eq_some_iff :
    unwritable? room value = some failure ↔ Stops room value failure :=
  ⟨stops_of_unwritable? value, unwritable?_of_stops⟩

end Values

end Json

end SolcRelease
