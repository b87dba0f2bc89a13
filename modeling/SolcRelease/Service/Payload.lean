import SolcRelease.Failure
import SolcRelease.Service.Message

/-! What a client sends for inference: a JSON object that holds bytecode in hexadecimal. -/

namespace SolcRelease

namespace Payload

/--
Tells whether a character may stand around the name of a kind of content.

Other white space does not come with a header, or makes the kind one that is no JSON.
-/
def isPadding (c : CodePoint) : Bool :=
  c == ' ' || c == '\t'

/-- Tells whether a kind of content is JSON, whatever its parameters. -/
def isJsonType (contentType : Text) : Bool :=
  let media := ((contentType.upTo ';').stripBy isPadding).map CodePoint.toLower
  media == "application/json"
    || (("application/" : Text).isPrefixOf media && ("+json" : Text).isSuffixOf media)

/-- The JSON value that a request carries, if it carries one. -/
def jsonOf (room : Nat) (request : Request) : Except Failure (Option Json) :=
  if request.contentType.any isJsonType then
    match Json.readBytes? room request.body with
    | some (.ok value) => .ok (some value)
    | some (.error (.tooDeep enclosure)) => .error (.fault (.documentTooDeep enclosure))
    | some (.error _) | none => .ok none
  else .ok none

/-- The members of the JSON object that a request carries. -/
def membersOf (room : Nat) (request : Request) : Except Failure (Entries Json) := do
  match ← jsonOf room request with
  | some (.object members) => .ok members
  | _ => .error (.refusal (.invalidInput .bodyNotObject))

/-- A text without `0x` in front. -/
def dropHexMark : Text → Text
  | .char '0' :: .char 'x' :: rest => rest
  | .char '0' :: .char 'X' :: rest => rest
  | text => text

/-- The bytecode in what a client gives as such. -/
def bytecodeOf : Option Json → Except Refusal Bytes
  | some (.string raw) =>
    if raw.strip.isEmpty then .error (.invalidInput .bytecodeMissing)
    else
      let digits := dropHexMark raw.strip
      match Hex.decode digits with
      | .ok bytecode => .ok bytecode
      | .error flaw => .error (.invalidInput (.bytecodeNotHex flaw digits.length))
  | _ => .error (.invalidInput .bytecodeMissing)

/-- The bytecode that a request carries. -/
def ofRequest (room : Nat) (request : Request) : Except Failure Bytes := do
  let members ← membersOf room request
  (bytecodeOf (Entries.get? members "bytecode")).mapError .refusal

end Payload

end SolcRelease
