import SolcRelease.Json.Reader
import SolcRelease.Proofs.Outcome

/-! Arrays that are opened in each other: one more than there is room for lies too deep. -/

namespace SolcRelease

namespace Json

/-- A document that opens some arrays, each in the one before it, and closes none. -/
def brackets (count : Nat) : Text :=
  List.replicate count (.char '[')

/-- No bracket is a gap. -/
theorem skipGap_brackets (count : Nat) : skipGap (brackets count) = brackets count := by
  cases count <;> rfl

/-- Reading stops at the first bracket that there is no room for. -/
theorem readValue_brackets (limited : Bool) (room spare : Nat) :
    readValue limited (2 * room + spare + 1) room (brackets (room + 1)) =
      .error (.tooDeep .array) := by
  -- The brackets behind the first are read as its first item, with less room by one.
  induction room with
  | zero => rfl
  | succ room ih =>
    have items : readItems limited (2 * (room + 1) + spare) room (brackets (room + 1)) =
        .error (.tooDeep .array) := by
      have fuel : 2 * (room + 1) + spare = 2 * room + spare + 1 + 1 := by omega
      rw [fuel, readItems, ih]
      rfl
    -- Behind the first bracket there is another one, and no end of the array.
    have step : readValue limited (2 * (room + 1) + spare + 1) (room + 1)
        (brackets (room + 1 + 1)) =
          readItems limited (2 * (room + 1) + spare) room (brackets (room + 1)) >>=
            fun found => .ok (.array found.1, found.2) := rfl
    rw [step, items]
    rfl

/-- Where there is room for some arrays in each other, one more lies too deep. -/
theorem read_brackets (nesting : Nat) :
    read nesting (brackets (nesting + 1)) = .error (.tooDeep .array) := by
  have length : (brackets (nesting + 1)).length = nesting + 1 := List.length_replicate
  have fuel : 2 * (brackets (nesting + 1)).length + 2 = 2 * nesting + 3 + 1 := by omega
  have stopped := readValue_brackets true nesting 3
  show readDocument true nesting (brackets (nesting + 1)) = _
  simp only [readDocument, fuel, skipGap_brackets, stopped]

end Json

end SolcRelease
