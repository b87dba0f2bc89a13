import SolcRelease.Catalog.Lookup
import SolcRelease.Inference
import SolcRelease.Json.Writer
import SolcRelease.Service.Payload
import SolcRelease.Service.Route
import SolcRelease.Service.Url
import SolcRelease.Text.UpperCase

/-! The service: each request leads to an activity that ends in an answer. -/

namespace SolcRelease

/-- A service. -/
structure Service where
  /-- The metadata decoder, if one is configured. -/
  decoder : Option Decoder
  /-- The version of the service itself. -/
  version : Text

namespace Service

/-- The time that the service has been up, in seconds. -/
def uptime : Activity Json := do
  return .real (Binary64.ofFraction false (← read).uptime 100)

/-- Answers with the health of the service. -/
def health : Activity Json := do
  return .object [("status", .string "ok"), ("uptime_seconds", ← uptime)]

/-- Answers with the version of the service. -/
def ownVersion (service : Service) : Activity Json := do
  return .object
    [("version", .string service.version), ("uptime_seconds", ← uptime)]

/-- A compiler, as it is answered. -/
def compilerDocument (version build : Text) : Json :=
  .object [("version", .string version), ("build", .string build)]

/-- Answers with the latest compiler. -/
def latestCompiler : Activity Json := do
  -- One catalog serves for both the version and its build.
  let catalog ← Catalog.fetch none none
  let latest ← Catalog.latestRelease (some catalog)
  let text ← Activity.ofWriting latest.text
  let build ← Catalog.resolve text (some catalog)
  return compilerDocument text build

/-- Answers with the compiler of the version that a text denotes. -/
def compiler (text : Text) : Activity Json := do
  let version ← Activity.ofOutcome (Version.ofText text)
  let text ← Activity.ofWriting version.text
  let build ← Catalog.resolve text none
  return compilerDocument text build

/-- Tells whether a client asks for the releases in the range as well. -/
def wantsCandidates (target : Target) : Bool :=
  target.field? "candidates" == some ("1" : Text)

/-- The texts of versions. -/
def textsOf : List Version → Except TooManyDigits (List Text)
  | [] => .ok []
  | version :: rest => do
    let text ← version.text
    let texts ← textsOf rest
    .ok (text :: texts)

/-- The texts of the releases in a range, if they are wanted. -/
def candidates (wanted : Bool) (range : VersionRange) : Activity (Option (List Text)) := do
  if wanted then
    let versions ← Catalog.matchingReleases (.range range) none
    let texts ← Activity.ofWriting (textsOf versions)
    return some texts
  else return none

/-- Answers with the range of versions that may have produced a bytecode. -/
def inference (service : Service) (target : Target) (request : Request) : Activity Json := do
  match service.decoder with
  | none => Activity.refuse (.misconfigured .decoderMissing)
  | some decoder =>
    let bytecode ← Activity.ofOutcome (Payload.ofRequest (← Activity.room).request request)
    let range ← Inference.infer decoder bytecode
    let text ← Activity.ofWriting range.text
    let found ← candidates (wantsCandidates target) range
    Activity.log .api .info ("inferred kind=" ++ range.kind.word
      ++ " range=" ++ text ++ " bytes=" ++ Decimal.digits bytecode.length)
    return .object
      ([Json.named "inferral_kind" (.string range.kind.word), Json.named "range" (.string text)]
        ++ (found.map fun texts =>
          Json.named "candidates" (.array (texts.map Json.string))).toList)

/-- The activity of a route, for the routes that lead to a JSON document. -/
def documentOf (service : Service) (target : Target) (request : Request) :
    Route → Option (Activity Json)
  | .health => some health
  | .version => some service.ownVersion
  | .latestCompiler => some latestCompiler
  | .compiler text => some (compiler text)
  | .inference => some (service.inference target request)
  | .file => none

/-- The fault of a document that cannot be written. -/
def unsent : Json.WriteFailure → Fault
  | .tooManyDigits => .tooManyDigits .writing
  | .tooDeep => .answerTooDeep

/-- Sends a document, unless it cannot be written. -/
def send (status : Nat) (value : Json) : Activity Answer := do
  match Json.unwritable? (← Activity.room).answer value with
  | none => return .document status value
  | some failure => Activity.fail (.fault (unsent failure))

/-- Turns a refusal into its answer; a grave one is logged. -/
def recover : Failure → Activity Answer
  | .refusal cause => do
    if 500 ≤ cause.status then
      Activity.log .service .error (cause.code ++ ": " ++ cause.message)
    send cause.status (← Activity.ofOutcome (cause.body.mapError .fault))
  | .fault cause => Activity.fail (.fault cause)

/-- The answer of an activity that ends in a document or in a refusal. -/
def answering (activity : Activity Json) : Activity Answer :=
  tryCatch (do send 200 (← activity)) recover

/-- Handles a request. -/
def handle (service : Service) (request : Request) : Activity Answer := do
  let method := request.method.upperCase
  let target := Target.ofAddress request.address
  match Dispatch.ofRequest method target.path with
  | .notFound => return .page 404
  | .notAllowed methods => return { Answer.page 405 with allow := some methods }
  | .inquired methods => return { Answer.page 200 with allow := some methods }
  | .redirected path => return { Answer.page 308 with location := some (target.relocated path) }
  | .taken route =>
    match service.documentOf target request route with
    | none => return .page 404
    | some activity =>
      let answer ← answering activity
      -- Routes take a method in either case, but only the exact word asks for no content.
      return if request.method = "HEAD" then answer.announcedOnly else answer

end Service

end SolcRelease
