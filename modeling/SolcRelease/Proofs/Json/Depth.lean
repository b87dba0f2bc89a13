import SolcRelease.Json.Writer
import SolcRelease.Proofs.Json.Writable

/-! How deep a value is, and that room for so many enclosures is all that counts in writing it. -/

namespace SolcRelease

namespace Json

mutual

/-- How many arrays and objects lie in each other in a value, itself included. -/
def depth : Json → Nat
  | .array items => depthOfItems items + 1
  | .object members => depthOfMembers members + 1
  | .null | .bool _ | .whole _ | .real _ | .string _ => 0

/-- The depth of the deepest of some items. -/
def depthOfItems : List Json → Nat
  | [] => 0
  | item :: rest => max (depth item) (depthOfItems rest)

/-- The depth of the deepest among the values of some members. -/
def depthOfMembers : List (Text × Json) → Nat
  | [] => 0
  | (_, value) :: rest => max (depth value) (depthOfMembers rest)

end

/-- The deepest among the values of members is one of the first of them, or one of the others. -/
@[simp] theorem depthOfMembers_append (members rest : List (Text × Json)) :
    depthOfMembers (members ++ rest) = max (depthOfMembers members) (depthOfMembers rest) := by
  induction members with
  | nil => simp [depthOfMembers]
  | cons member others ih => simp [depthOfMembers, ih, Nat.max_assoc]

/-- There is a first failure by name unless there is none at all. -/
theorem firstByName_eq_none_iff {failures : List (Text × WriteFailure)} :
    firstByName failures = none ↔ failures = [] := by
  cases failures with
  | nil => exact iff_of_true rfl rfl
  | cons failure rest =>
    rw [firstByName]
    cases firstByName rest <;> simp

mutual

/-- A value can be written if its integers are short enough and there is room for its depth. -/
theorem unwritable?_eq_none_iff (room : Nat) : ∀ value : Json,
    unwritable? room value = none ↔ value.isWritable = true ∧ value.depth ≤ room
  | .null | .bool _ | .real _ | .string _ => by simp [unwritable?, isWritable, depth]
  | .whole value => by simp [unwritable?, isWritable, depth]
  | .array items => by
    -- The array itself takes the first part of the room, if there is any.
    cases room with
    | zero => simp [unwritable?, depth]
    | succ room =>
      rw [unwritable?, unwritableItem?_eq_none_iff room items, isWritable, depth,
        Nat.succ_le_succ_iff]
  | .object members => by
    cases room with
    | zero => simp [unwritable?, depth]
    | succ room =>
      rw [unwritable?, Option.map_eq_none_iff, firstByName_eq_none_iff,
        unwritableMembers_eq_nil_iff room members, isWritable, depth, Nat.succ_le_succ_iff]

/-- Items can be written if each of them can. -/
theorem unwritableItem?_eq_none_iff (room : Nat) : ∀ items : List Json,
    unwritableItem? room items = none ↔ areWritable items = true ∧ depthOfItems items ≤ room
  | [] => by simp [unwritableItem?, areWritable, depthOfItems]
  | item :: rest => by
    rw [unwritableItem?, Option.or_eq_none_iff, unwritable?_eq_none_iff room item,
      unwritableItem?_eq_none_iff room rest, areWritable, depthOfItems, Bool.and_eq_true,
      Nat.max_le, and_and_and_comm]

/-- Members can be written if each of their values can. -/
theorem unwritableMembers_eq_nil_iff (room : Nat) : ∀ members : List (Text × Json),
    unwritableMembers room members = [] ↔
      haveWritable members = true ∧ depthOfMembers members ≤ room
  | [] => by simp [unwritableMembers, haveWritable, depthOfMembers]
  | (key, value) :: rest => by
    rw [unwritableMembers, List.append_eq_nil_iff, Option.toList_eq_nil_iff,
      Option.map_eq_none_iff, unwritable?_eq_none_iff room value,
      unwritableMembers_eq_nil_iff room rest, haveWritable, depthOfMembers, Bool.and_eq_true,
      Nat.max_le, and_and_and_comm]

end

mutual

/-- Where there is room for its depth, the same keeps a value from being written, or nothing. -/
theorem unwritable?_congr {room other : Nat} : ∀ {value : Json}, value.depth ≤ room →
    value.depth ≤ other → unwritable? room value = unwritable? other value
  | .null, _, _ | .bool _, _, _ | .real _, _, _ | .string _, _, _ | .whole _, _, _ => by
    simp [unwritable?]
  | .array items, here, there => by
    -- Room for the array leaves as much as its items need, and so does the other room.
    obtain ⟨rest, rfl⟩ := Nat.exists_eq_add_of_le' here
    obtain ⟨left, rfl⟩ := Nat.exists_eq_add_of_le' there
    rw [depth, ← Nat.add_assoc, ← Nat.add_assoc, unwritable?, unwritable?]
    exact unwritableItem?_congr (Nat.le_add_left _ _) (Nat.le_add_left _ _)
  | .object members, here, there => by
    obtain ⟨rest, rfl⟩ := Nat.exists_eq_add_of_le' here
    obtain ⟨left, rfl⟩ := Nat.exists_eq_add_of_le' there
    rw [depth, ← Nat.add_assoc, ← Nat.add_assoc, unwritable?, unwritable?,
      unwritableMembers_congr (Nat.le_add_left _ _) (Nat.le_add_left _ _)]

/-- Where there is room for the deepest of some items, the same stands in their way. -/
theorem unwritableItem?_congr {room other : Nat} : ∀ {items : List Json},
    depthOfItems items ≤ room → depthOfItems items ≤ other →
      unwritableItem? room items = unwritableItem? other items
  | [], _, _ => by simp [unwritableItem?]
  | item :: rest, here, there => by
    rw [depthOfItems, Nat.max_le] at here there
    rw [unwritableItem?, unwritableItem?, unwritable?_congr here.1 there.1,
      unwritableItem?_congr here.2 there.2]

/-- Where there is room for the deepest value of some members, the same stands in their way. -/
theorem unwritableMembers_congr {room other : Nat} : ∀ {members : List (Text × Json)},
    depthOfMembers members ≤ room → depthOfMembers members ≤ other →
      unwritableMembers room members = unwritableMembers other members
  | [], _, _ => by simp [unwritableMembers]
  | (key, value) :: rest, here, there => by
    rw [depthOfMembers, Nat.max_le] at here there
    rw [unwritableMembers, unwritableMembers, unwritable?_congr here.1 there.1,
      unwritableMembers_congr here.2 there.2]

end

/-- What can be written where there is some room can be written where there is more. -/
theorem unwritable?_eq_none_of_le {value : Json} {least room : Nat} (more : least ≤ room)
    (writable : unwritable? least value = none) : unwritable? room value = none := by
  rw [unwritable?_eq_none_iff] at *
  exact ⟨writable.1, Nat.le_trans writable.2 more⟩

end Json

end SolcRelease
