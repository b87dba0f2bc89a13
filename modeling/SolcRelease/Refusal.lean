import SolcRelease.Fault
import SolcRelease.Json.Shown
import SolcRelease.Text.Hex
import SolcRelease.Version.Text

/-!
Refusals: the failures that the service foresees. Each has a cause, from which follow its code,
its status, its message and its details.
-/

namespace SolcRelease

/-- What a metadata decoder found instead of a compiler version. -/
inductive MetadataSignal where
  /-- A signal that is neither of the two below. -/
  | unclassified
  /-- Metadata that names no compiler version. -/
  | versionAbsent
  /-- No metadata at all. -/
  | blockAbsent
  deriving DecidableEq, Repr

/-- What a refusal tells besides its message. -/
inductive Details where
  /-- A JSON value, void where there is nothing to tell. -/
  | json (value : Json)
  /-- Something that JSON has no place for, so that whoever would write it ends in this fault. -/
  | foreign (fault : Fault)

/-- Why a response has no document. -/
inductive DocumentFailure where
  /-- Its bytes stand for no text, says a failure of this kind and wording. -/
  | noText (kind message : Text)
  /-- Its text is no document. -/
  | unreadable (failure : Json.ReadFailure)

/-- The wording of a missing document. -/
def DocumentFailure.message : DocumentFailure → Text
  | .noText _ message => message
  | .unreadable failure => failure.message

/-- Why no release catalog could be had, or why the one at hand does not serve. -/
inductive CatalogFault where
  /-- No response arrived: the kind of transport failure and its wording. -/
  | unreachable (kind message : Text)
  /-- The response reports a failure. -/
  | badStatus (status : Int) (body : Text)
  /-- The body of the response is no JSON document. -/
  | notJson (status : Int) (failure : DocumentFailure)
  /-- The body of the response is a JSON document other than an object. -/
  | notObject (status : Int)
  /-- The latest release that the catalog names is no version. -/
  | latestUnusable (latest : Text)
  /-- Someone else reported the failure. -/
  | stated (reason : Text) (status : Option Json) (body : Option Text)

/-- What is wrong with a setting. -/
inductive Misconfiguration where
  /-- A bound is configured by a text that is no version. -/
  | badBound (setting text : Text) (flaw : VersionFlaw)
  /-- The service has no metadata decoder. -/
  | decoderMissing
  /-- Someone else reported the setting. -/
  | stated (setting message : Text)

/-- What is wrong with what a client sent. -/
inductive InputProblem where
  /-- The body is not a JSON object. -/
  | bodyNotObject
  /-- The body names no bytecode. -/
  | bytecodeMissing
  /-- The bytecode is not hexadecimal; the length is that of the digits. -/
  | bytecodeNotHex (flaw : HexFlaw) (length : Nat)
  /-- Someone else found the input wanting. -/
  | stated (message : Text) (details : Details)

/-- A status by which an answer tells of a failure. -/
structure FailureStatus where
  /-- The number of the status. -/
  code : Nat
  /-- Statuses below this one tell of no failure. -/
  least : 400 ≤ code
  /-- There are no statuses beyond these. -/
  most : code < 600

/-- A kind of refusal that is narrower than those below, with what it has of its own. -/
structure OwnKind where
  /-- Its name. -/
  name : Text
  /-- The code of its own, if it has one. -/
  code : Option Text
  /-- The status of its own, if it has one. -/
  status : Option FailureStatus

/-- A failure that the service foresees. -/
inductive Refusal where
  /-- A failure of no particular kind. -/
  | unclassified (message : Text) (details : Details)
  /-- The input is unacceptable. -/
  | invalidInput (problem : InputProblem)
  /-- A text is no version. -/
  | invalidVersion (text : Text) (flaw : VersionFlaw)
  /-- A metadata decoder could not tell the compiler version. -/
  | undecodable (signal : MetadataSignal) (message : Text) (details : Details)
  /-- The catalog has no release of a version. -/
  | releaseMissing (version : Text)
  /-- There is no usable catalog; the address is empty where none was asked. -/
  | catalogUnavailable (fault : CatalogFault) (url : Text)
  /-- The service is misconfigured. -/
  | misconfigured (problem : Misconfiguration)
  /-- A failure of a narrower kind, which is treated as the kind it belongs to. -/
  | specialised (kind : OwnKind) (base : Refusal)

/-- The message of a signal that comes without one. -/
def MetadataSignal.message : MetadataSignal → Text
  | .unclassified => []
  | .versionAbsent => "Metadata block has no compiler version"
  | .blockAbsent => "Could not decode a metadata block"

/-- The code of a signal. -/
def MetadataSignal.code : MetadataSignal → Text
  | .unclassified => "METADATA_DECODE_SIGNAL"
  | .versionAbsent => "VERSION_FIELD_ABSENT"
  | .blockAbsent => "METADATA_BLOCK_ABSENT"

namespace CatalogFault

/-- The reason given for a fault. -/
def reason : CatalogFault → Text
  | .unreachable _ message => message
  | .badStatus status body =>
    "HTTP response is not ok. Status code: " ++ Decimal.signed status
      ++ " Response text: " ++ body
  | .notJson _ failure => "Invalid JSON in compiler list: " ++ failure.message
  | .notObject _ => "Compiler list is not a JSON object"
  | .latestUnusable latest =>
    "Compiler list has no usable latestRelease: " ++ latest.quoted
  | .stated reason _ _ => reason

/-- The status of the response at fault, where there was a response. -/
def status? : CatalogFault → Option Json
  | .badStatus status _ | .notJson status _ | .notObject status => some (.whole status)
  | .stated _ status _ => status
  | .unreachable _ _ | .latestUnusable _ => none

/-- The body of the response at fault, where it was no success. -/
def body? : CatalogFault → Option Text
  | .badStatus _ body => some body
  | .stated _ _ body => body
  | _ => none

/-- The details of a fault; an empty address is left out. -/
def details (fault : CatalogFault) (url : Text) : List (Text × Json) :=
  [Json.named "reason" (.string fault.reason)]
    ++ (fault.status?.map (Json.named "status_code")).toList
    ++ (fault.body?.map fun body => Json.named "body" (.string body)).toList
    ++ if url.isEmpty then [] else [Json.named "url" (.string url)]

end CatalogFault

namespace Misconfiguration

/-- The name of the setting at fault. -/
def setting : Misconfiguration → Text
  | .badBound setting _ _ => setting
  | .decoderMissing => "METADATA_DECODER"
  | .stated setting _ => setting

/-- What is wrong with the setting. -/
def problem : Misconfiguration → Text
  | .badBound _ text flaw => flaw.reason ++ ": " ++ text.quoted
  | .decoderMissing => "no metadata decoder configured"
  | .stated _ message => message

/-- The failure that gave rise to the problem, where there was one. -/
def origin? : Misconfiguration → Option Refusal
  | .badBound _ text flaw => some (.invalidVersion text flaw)
  | .decoderMissing | .stated _ _ => none

end Misconfiguration

namespace InputProblem

/-- The wording of a problem. -/
def message : InputProblem → Text
  | .bodyNotObject => "Request body must be a JSON object"
  | .bytecodeMissing => "Missing 'bytecode' (hex string)"
  | .bytecodeNotHex flaw _ => "Invalid hex bytecode: " ++ flaw.message
  | .stated message _ => message

/-- The details of a problem, void where there are none. -/
def details : InputProblem → Details
  | .bytecodeNotHex _ length => .json (.object [("length", .whole length)])
  | .stated _ details => details
  | .bodyNotObject | .bytecodeMissing => .json .null

end InputProblem

namespace Refusal

/-- The code by which a program tells the refusal. -/
def code : Refusal → Text
  | .unclassified _ _ => "SOLCVER_ERROR"
  | .invalidInput _ => "VALIDATION_ERROR"
  | .invalidVersion _ _ => "INVALID_VERSION"
  | .undecodable signal _ _ => signal.code
  | .releaseMissing _ => "VERSION_NOT_FOUND"
  | .catalogUnavailable _ _ => "CATALOG_FETCH_FAILED"
  | .misconfigured _ => "CONFIGURATION_ERROR"
  | .specialised kind base => kind.code.getD base.code

/-- The HTTP status of the answer to a refused request. -/
def status : Refusal → Nat
  | .unclassified _ _ => 500
  | .invalidInput _ => 400
  | .invalidVersion _ _ => 400
  | .undecodable _ _ _ => 422
  | .releaseMissing _ => 404
  | .catalogUnavailable _ _ => 502
  | .misconfigured _ => 500
  | .specialised kind base => (kind.status.map FailureStatus.code).getD base.status

/-- The message for people. -/
def message : Refusal → Text
  | .unclassified message _ => message
  | .invalidInput problem => problem.message
  | .invalidVersion text flaw => flaw.reason ++ ": " ++ text.quoted
  | .undecodable _ message _ => message
  | .releaseMissing _ => "Given solc version doesn't exist"
  | .catalogUnavailable fault _ =>
    "Failed to obtain list of solc versions. Reason: " ++ fault.reason
  | .misconfigured problem =>
    "Configuration error for " ++ problem.setting ++ ": " ++ problem.problem
  | .specialised _ base => base.message

/-- What else there is to say, void where there is nothing. -/
def details : Refusal → Details
  | .unclassified _ details => details
  | .invalidInput problem => problem.details
  | .invalidVersion text flaw =>
    .json (.object [("version", .string text), ("reason", .string flaw.reason)])
  | .undecodable _ _ details => details
  | .releaseMissing version => .json (.object [("version", .string version)])
  | .catalogUnavailable fault url => .json (.object (fault.details url))
  | .misconfigured problem => .json (.object [("setting", .string problem.setting)])
  | .specialised _ base => base.details

/-- The structured body of a refusal with some details, which are left out if they are void. -/
def bodyWith (refusal : Refusal) (details : Json) : Json :=
  .object ([Json.named "error" (.bool true), Json.named "error_code" (.string refusal.code),
      Json.named "message" (.string refusal.message)]
    ++ if details.isVoid then [] else [Json.named "details" details])

/-- The structured body of the answer to a refused request, unless JSON has no place for it. -/
def body (refusal : Refusal) : Except Fault Json :=
  match refusal.details with
  | .json details => .ok (refusal.bodyWith details)
  | .foreign fault => .error fault

/-- The signal in a decoder's refusal. -/
def signal? : Refusal → Option MetadataSignal
  | .undecodable signal _ _ => some signal
  | .specialised _ base => base.signal?
  | _ => none

end Refusal

end SolcRelease
