import SolcRelease.Proofs.Outcome
import SolcRelease.Proofs.Text.Hex
import SolcRelease.Service.Payload

/-!
What a client sent comes to: the bytecode whose digits it holds, a refusal, or a document that lies
too deep.
-/

namespace SolcRelease

namespace Payload

variable {room : Nat} {request : Request} {bytecode : Bytes} {enclosure : Json.Enclosure}

/-- A request carries a document whose enclosures lie too deep in each other. -/
def IsTooDeep (room : Nat) (request : Request) (enclosure : Json.Enclosure) : Prop :=
  request.contentType.any isJsonType = true ∧
    Json.readBytes? room request.body = some (.error (.tooDeep enclosure))

/-- A document that lies too deep is a fault and no refusal. -/
theorem ofRequest_of_isTooDeep (deep : IsTooDeep room request enclosure) :
    ofRequest room request = .error (.fault (.documentTooDeep enclosure)) := by
  obtain ⟨isJson, failed⟩ := deep
  -- The reader fails before any member is looked for.
  simp [ofRequest, membersOf, jsonOf, isJson, failed]

/-- A text has the digits of some bytes, in either case and perhaps with `0x` in front. -/
def HasDigits (raw : Text) (bytecode : Bytes) : Prop :=
  raw.strip ≠ [] ∧ (dropHexMark raw.strip).map CodePoint.toLower = Hex.encode bytecode

/-- A request, sent as JSON, has an object for its body in which the bytecode has these digits. -/
def Carries (room : Nat) (request : Request) (bytecode : Bytes) : Prop :=
  ∃ members raw, request.contentType.any isJsonType = true ∧
    Json.readBytes? room request.body = some (.ok (.object members)) ∧
    Entries.get? members "bytecode" = some (.string raw) ∧ HasDigits raw bytecode

/-- The bytecode in what a client gives as such is the one whose digits the text has. -/
theorem bytecodeOf_eq_ok_iff {given : Option Json} :
    bytecodeOf given = .ok bytecode ↔
      ∃ raw, given = some (.string raw) ∧ HasDigits raw bytecode := by
  constructor
  · intro found
    unfold bytecodeOf at found
    split at found
    · rename_i raw
      split at found
      · cases found
      · rename_i something
        -- Digits are all that is left, and they are read in either case.
        dsimp only at found
        split at found
        · rename_i read
          cases found
          have nonempty : raw.strip ≠ [] := fun nothing =>
            something (List.isEmpty_iff.mpr nothing)
          exact ⟨raw, rfl, nonempty, Hex.decode_eq_ok_iff.mp read⟩
        · cases found
    · cases found
  · rintro ⟨raw, rfl, nonempty, digits⟩
    simp [bytecodeOf, nonempty, Hex.decode_eq_ok_iff.mpr digits]

/-- The members of a request are those of the object that it has for its body. -/
theorem membersOf_eq_ok_iff {members : Entries Json} :
    membersOf room request = .ok members ↔
      request.contentType.any isJsonType = true ∧
        Json.readBytes? room request.body = some (.ok (.object members)) := by
  constructor
  · intro found
    simp only [membersOf, jsonOf] at found
    split at found
    · rename_i isJson
      split at found
      · rename_i value read
        rw [Outcome.ok_bind] at found
        -- Of all values only an object has members.
        cases value with
        | object others =>
          cases found
          exact ⟨isJson, read⟩
        | _ => cases found
      · cases found
      · cases found
      · cases found
    · cases found
  · intro ⟨isJson, read⟩
    simp [membersOf, jsonOf, isJson, read]

/-- The bytecode of a request is the one that it carries. -/
theorem ofRequest_eq_ok_iff :
    ofRequest room request = .ok bytecode ↔ Carries room request bytecode := by
  have unwrapped (result : Except Refusal Bytes) :
      result.mapError Failure.refusal = .ok bytecode ↔ result = .ok bytecode := by
    cases result with
    | ok other =>
      change (Except.ok other : Except Failure Bytes) = .ok bytecode ↔ _
      simp only [Except.ok.injEq]
    | error cause =>
      -- A failure that is wrapped up stays a failure.
      change (Except.error (Failure.refusal cause) : Except Failure Bytes) = .ok bytecode ↔ _
      simp only [reduceCtorEq]
  simp only [ofRequest, Outcome.bind_eq_ok_iff, membersOf_eq_ok_iff, unwrapped,
    bytecodeOf_eq_ok_iff]
  constructor
  · rintro ⟨members, ⟨isJson, read⟩, raw, found, digits⟩
    exact ⟨members, raw, isJson, read, found, digits⟩
  · rintro ⟨members, raw, isJson, read, found, digits⟩
    exact ⟨members, ⟨isJson, read⟩, raw, found, digits⟩

end Payload

end SolcRelease
