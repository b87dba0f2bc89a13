import Mathlib.Data.List.TakeWhile
import SolcRelease.Json.Reader
import SolcRelease.Json.Shown
import SolcRelease.Proofs.Decimal.Natural
import SolcRelease.Proofs.Outcome

/-! Values whose integers are short enough: the ones that can be shown, and all that are read. -/

namespace SolcRelease

namespace Json

mutual

/-- Tells whether a value can be written as far as its integers go: none has too many digits. -/
def isWritable : Json → Bool
  | .whole value => (Decimal.digits value.natAbs).length ≤ digitLimit
  | .array items => areWritable items
  | .object members => haveWritable members
  | .null | .bool _ | .real _ | .string _ => true

/-- Tells whether the items of an array can be written as far as their integers go. -/
def areWritable : List Json → Bool
  | [] => true
  | item :: rest => isWritable item && areWritable rest

/-- Tells whether the values of members can be written as far as their integers go. -/
def haveWritable : List (Text × Json) → Bool
  | [] => true
  | (_, value) :: rest => isWritable value && haveWritable rest

end

/-- The members of an object can be written if each of their values can. -/
theorem haveWritable_iff {members : List (Text × Json)} :
    haveWritable members = true ↔ ∀ member ∈ members, member.2.isWritable = true := by
  -- The members are checked one after another, and all of them have to pass.
  induction members with
  | nil => simp [haveWritable]
  | cons member rest ih => simp [haveWritable, ih]

section Showing

/-- An integer is shown if it is short enough, and otherwise it is too long to be written. -/
theorem writeSigned_eq (value : Int) :
    Decimal.writeSigned value =
      if (Json.whole value).isWritable then .ok (Decimal.signed value) else .error .writing := by
  simp [Decimal.writeSigned, isWritable]

mutual

/-- A value is shown if its integers are short enough, and otherwise one is too long for it. -/
theorem shown_cases : ∀ value : Json,
    (value.isWritable = true ∧ ∃ text, value.shown = .ok text) ∨
      (value.isWritable = false ∧ value.shown = .error .writing)
  | .null => Or.inl ⟨rfl, _, rfl⟩
  | .bool _ => Or.inl ⟨rfl, _, rfl⟩
  | .whole value => by
    rw [shown, writeSigned_eq]
    -- Of the plain values only an integer can be too long.
    cases short : (Json.whole value).isWritable with
    | true => exact Or.inl ⟨rfl, _, rfl⟩
    | false => exact Or.inr ⟨rfl, rfl⟩
  | .real _ => Or.inl ⟨rfl, _, rfl⟩
  | .string _ => Or.inl ⟨rfl, _, rfl⟩
  | .array items => by
    rw [isWritable, shown]
    -- Brackets around the items change nothing about whether they are shown.
    rcases shownItems_cases items with ⟨short, parts, found⟩ | ⟨long, failed⟩
    · exact Or.inl ⟨short, _, by rw [found]; rfl⟩
    · exact Or.inr ⟨long, by rw [failed]; rfl⟩
  | .object members => by
    rw [isWritable, shown]
    rcases shownMembers_cases members with ⟨short, parts, found⟩ | ⟨long, failed⟩
    · exact Or.inl ⟨short, _, by rw [found]; rfl⟩
    · exact Or.inr ⟨long, by rw [failed]; rfl⟩

/-- Items are shown if all their integers are short enough. -/
theorem shownItems_cases : ∀ items : List Json,
    (areWritable items = true ∧ ∃ parts, shownItems items = .ok parts) ∨
      (areWritable items = false ∧ shownItems items = .error .writing)
  | [] => Or.inl ⟨rfl, _, rfl⟩
  | item :: rest => by
    rw [areWritable, shownItems]
    -- The first integer that is too long ends the showing, wherever it stands.
    rcases shown_cases item with ⟨short, part, found⟩ | ⟨long, failed⟩
    · rcases shownItems_cases rest with ⟨others, parts, more⟩ | ⟨long, failed⟩
      · exact Or.inl ⟨by rw [short, others]; rfl, _, by rw [found, more]; rfl⟩
      · exact Or.inr ⟨by rw [short, long]; rfl, by rw [found, failed]; rfl⟩
    · exact Or.inr ⟨by rw [long]; rfl, by rw [failed]; rfl⟩

/-- Members are shown if all the integers in their values are short enough. -/
theorem shownMembers_cases : ∀ members : List (Text × Json),
    (haveWritable members = true ∧ ∃ parts, shownMembers members = .ok parts) ∨
      (haveWritable members = false ∧ shownMembers members = .error .writing)
  | [] => Or.inl ⟨rfl, _, rfl⟩
  | (key, value) :: rest => by
    rw [haveWritable, shownMembers]
    -- A key can always be shown, so the value decides, and then the rest.
    rcases shown_cases value with ⟨short, part, found⟩ | ⟨long, failed⟩
    · rcases shownMembers_cases rest with ⟨others, parts, more⟩ | ⟨long, failed⟩
      · exact Or.inl ⟨by rw [short, others]; rfl, _, by rw [found, more]; rfl⟩
      · exact Or.inr ⟨by rw [short, long]; rfl, by rw [found, failed]; rfl⟩
    · exact Or.inr ⟨by rw [long]; rfl, by rw [failed]; rfl⟩

end

/-- The text of a value by itself exists if its integers are short enough. -/
theorem plain_of_isWritable {value : Json} (short : value.isWritable = true) :
    ∃ text, value.plain = .ok text := by
  unfold plain
  split
  · -- A string is its own text.
    exact ⟨_, rfl⟩
  · rcases shown_cases value with ⟨-, found⟩ | ⟨long, -⟩
    · exact found
    · rw [short] at long
      cases long

end Showing

section Reading

/-- The digits before a point are a row that is not empty. -/
theorem splitWhole_isRow {text digits rest : Text} (found : splitWhole text = some (digits, rest)) :
    digits ≠ [] ∧ digits.IsRow := by
  unfold splitWhole at found
  split at found
  · -- A zero in front stands alone.
    obtain ⟨rfl, -⟩ := Prod.mk.inj (Option.some.inj found)
    exact ⟨by decide, List.all_eq_true.mp (by decide)⟩
  · split at found
    · -- Any other digit takes along all the digits behind it.
      rename_i c tail _ digit
      obtain ⟨rfl, -⟩ := Prod.mk.inj (Option.some.inj found)
      refine ⟨List.cons_ne_nil _ _, fun d member => ?_⟩
      rcases List.mem_cons.mp member with rfl | taken
      · exact digit
      · exact List.mem_takeWhile_imp taken
    · cases found
  · cases found

/-- An integer that a short row of digits stands for can be written, whatever its sign. -/
theorem isWritable_whole {digits : Text} (row : digits ≠ [] ∧ digits.IsRow)
    (short : digits.length ≤ digitLimit) (negative : Bool) :
    (Json.whole
      (if negative then -(Decimal.value digits : Int) else Decimal.value digits)).isWritable
      = true := by
  have size : (if negative then -(Decimal.value digits : Int)
      else Decimal.value digits).natAbs = Decimal.value digits := by
    split <;> simp
  rw [isWritable, size, decide_eq_true_iff]
  -- Written again, the number has no more digits than the row it was read from.
  exact Nat.le_trans (Decimal.length_digits_value_le row.1 row.2) short

/-- A number that is read under the limit can be written. -/
theorem readNumber_isWritable {text rest : Text} {value : Json}
    (found : readNumber true text = .ok (value, rest)) : value.isWritable = true := by
  simp only [readNumber] at found
  split at found
  · cases found
  · rename_i digits _ whole
    split at found
    · -- Without a point and an exponent the number is an integer, held to the limit.
      split at found
      · cases found
      · rename_i size read
        obtain ⟨rfl, -⟩ := Prod.mk.inj (Except.ok.inj found)
        simp only [if_true, Decimal.read] at read
        split at read
        · rename_i short
          cases read
          exact isWritable_whole (splitWhole_isRow whole) short _
        · cases read
    · -- With either of them it is no integer, and every such number can be written.
      obtain ⟨rfl, -⟩ := Prod.mk.inj (Except.ok.inj found)
      rfl

/-- Putting in a member whose value can be written leaves an object that can be written. -/
theorem haveWritable_put {members : Entries Json} {key : Text} {value : Json}
    (short : value.isWritable = true) (others : haveWritable members = true) :
    haveWritable (members.put key value) = true := by
  induction members with
  | nil => simp [Entries.put, haveWritable, short]
  | cons member rest ih =>
    rw [haveWritable, Bool.and_eq_true] at others
    unfold Entries.put
    split
    · -- The new value takes the place of one with the same name.
      simp [haveWritable, short, others.2]
    · simp [haveWritable, others.1, ih others.2]

/-- Of members with one name the later stays, which can be written if all of them can. -/
theorem haveWritable_ofPairs {pairs : List (Text × Json)} (short : haveWritable pairs = true) :
    haveWritable (Entries.ofPairs pairs) = true := by
  -- The fold starts from no members, but its step is taken from any that can be written.
  have general : ∀ (pairs : List (Text × Json)) (members : Entries Json),
      haveWritable pairs = true → haveWritable members = true →
        haveWritable
          (pairs.foldl (fun entries pair => Entries.put pair.1 pair.2 entries) members)
          = true := by
    intro pairs
    induction pairs with
    | nil => exact fun members _ held => held
    | cons pair rest ih =>
      intro members short held
      rw [haveWritable, Bool.and_eq_true] at short
      exact ih _ short.2 (haveWritable_put short.1 held)
  exact general pairs [] short rfl

/-- The values that have a word of their own can be written. -/
theorem readWord_isWritable {text rest : Text} {value : Json}
    (found : readWord? text = some (value, rest)) : value.isWritable = true := by
  have known : ∀ entry ∈ words, entry.2.isWritable = true := by decide
  simp only [readWord?, Option.map_eq_some_iff] at found
  obtain ⟨entry, named, same⟩ := found
  obtain ⟨rfl, -⟩ := Prod.mk.inj same
  exact known entry (List.mem_of_find?_eq_some named)

/-- What the three readers give with so much fuel can be written. -/
structure ReadsWritable (fuel : Nat) : Prop where
  /-- Values can be written. -/
  value : ∀ {room : Nat} {text rest : Text} {value : Json},
    readValue true fuel room text = .ok (value, rest) → value.isWritable = true
  /-- The members of objects can be written. -/
  members : ∀ {room : Nat} {text rest : Text} {members : List (Text × Json)},
    readMembers true fuel room text = .ok (members, rest) → haveWritable members = true
  /-- The items of arrays can be written. -/
  items : ∀ {room : Nat} {text rest : Text} {items : List Json},
    readItems true fuel room text = .ok (items, rest) → areWritable items = true

section Step

variable {fuel room : Nat} {text rest : Text}

/-- A value can be written if what it encloses can. -/
theorem ReadsWritable.readValue_succ (below : ReadsWritable fuel) {value : Json}
    (found : readValue true (fuel + 1) room text = .ok (value, rest)) :
    value.isWritable = true := by
  unfold readValue at found
  split at found
  · -- A string holds no integer.
    simp only [Outcome.bind_eq_ok_iff] at found
    obtain ⟨_, -, same⟩ := found
    obtain ⟨rfl, -⟩ := Prod.mk.inj (Except.ok.inj same)
    rfl
  · -- An object is refused for its depth, empty, or made of the members that are read.
    split at found
    · cases found
    · obtain ⟨rfl, -⟩ := Prod.mk.inj (Except.ok.inj found)
      rfl
    · simp only [Outcome.bind_eq_ok_iff] at found
      obtain ⟨_, read, same⟩ := found
      obtain ⟨rfl, -⟩ := Prod.mk.inj (Except.ok.inj same)
      rw [isWritable]
      exact haveWritable_ofPairs (below.members read)
  · -- An array likewise.
    split at found
    · cases found
    · obtain ⟨rfl, -⟩ := Prod.mk.inj (Except.ok.inj found)
      rfl
    · simp only [Outcome.bind_eq_ok_iff] at found
      obtain ⟨_, read, same⟩ := found
      obtain ⟨rfl, -⟩ := Prod.mk.inj (Except.ok.inj same)
      rw [isWritable]
      exact below.items read
  · -- What begins with no mark of its own is a word or a number.
    split at found
    · rename_i word
      obtain ⟨rfl, -⟩ := Prod.mk.inj (Except.ok.inj found)
      exact readWord_isWritable word
    · exact readNumber_isWritable found

/-- Members can be written if the first value and the other members can. -/
theorem ReadsWritable.readMembers_succ (below : ReadsWritable fuel) {members : List (Text × Json)}
    (found : readMembers true (fuel + 1) room text = .ok (members, rest)) :
    haveWritable members = true := by
  unfold readMembers at found
  -- A member is a name in quotes, a colon and a value; anything else is refused.
  split at found
  · simp only [Outcome.bind_eq_ok_iff] at found
    obtain ⟨_, -, found⟩ := found
    split at found
    · simp only [Outcome.bind_eq_ok_iff] at found
      obtain ⟨_, first, found⟩ := found
      have short := below.value first
      -- The value is the last one, or members follow after a comma.
      split at found
      · obtain ⟨rfl, -⟩ := Prod.mk.inj (Except.ok.inj found)
        simp [haveWritable, short]
      · simp only [Outcome.bind_eq_ok_iff] at found
        obtain ⟨_, more, same⟩ := found
        obtain ⟨rfl, -⟩ := Prod.mk.inj (Except.ok.inj same)
        simp [haveWritable, short, below.members more]
      · cases found
    · cases found
  · cases found

/-- Items can be written if the first item and the other items can. -/
theorem ReadsWritable.readItems_succ (below : ReadsWritable fuel) {items : List Json}
    (found : readItems true (fuel + 1) room text = .ok (items, rest)) :
    areWritable items = true := by
  unfold readItems at found
  simp only [Outcome.bind_eq_ok_iff] at found
  obtain ⟨_, first, found⟩ := found
  have short := below.value first
  -- The item is the last one, or items follow after a comma.
  split at found
  · obtain ⟨rfl, -⟩ := Prod.mk.inj (Except.ok.inj found)
    simp [areWritable, short]
  · simp only [Outcome.bind_eq_ok_iff] at found
    obtain ⟨_, more, same⟩ := found
    obtain ⟨rfl, -⟩ := Prod.mk.inj (Except.ok.inj same)
    simp [areWritable, short, below.items more]
  · cases found

end Step

/-- What is read under the limit can be written, whatever the fuel. -/
theorem readsWritable (fuel : Nat) : ReadsWritable fuel := by
  -- The three readers call each other with one step less of fuel.
  induction fuel with
  | zero =>
    -- Without fuel nothing is read.
    refine ⟨?_, ?_, ?_⟩
    · intro room text rest value found
      simp [readValue] at found
    · intro room text rest members found
      simp [readMembers] at found
    · intro room text rest items found
      simp [readItems] at found
  | succ fuel below =>
    exact ⟨below.readValue_succ, below.readMembers_succ, below.readItems_succ⟩

/-- A document that is read under the limit can be written again. -/
theorem readDocument_isWritable {nesting : Nat} {document : Text} {value : Json}
    (found : readDocument true nesting document = .ok value) : value.isWritable = true := by
  simp only [readDocument] at found
  split at found
  · rename_i whole
    cases found
    split at whole
    · cases whole
    · -- The one value of the document is read, and nothing but blanks follows it.
      rename_i read
      split at whole
      · cases whole
        exact (readsWritable _).value read
      · cases whole
  all_goals cases found

/-- A document in plain text can be written again once it is read. -/
theorem isWritable_of_read {nesting : Nat} {document : Text} {value : Json}
    (found : read nesting document = .ok value) : value.isWritable = true := by
  unfold read at found
  split at found
  · cases found
  · exact readDocument_isWritable found

end Reading

end Json

end SolcRelease
