import SolcRelease.Text.Basic

/-! The routes of the service, and what becomes of a request by its method and path alone. -/

namespace SolcRelease

/-- What a path leads to. -/
inductive Route where
  /-- The health of the service. -/
  | health
  /-- The version of the service. -/
  | version
  /-- The latest compiler. -/
  | latestCompiler
  /-- The compiler of the version that this text denotes. -/
  | compiler (text : Text)
  /-- The inference of a range from bytecode. -/
  | inference
  /-- A file beside the service, of which there are none. -/
  | file
  deriving DecidableEq, Repr

namespace Route

/-- The route of a path, by the segments between its slashes. -/
def ofPath? (path : Text) : Option Route :=
  match path.splitOn '/' with
  | [[], segment] =>
    if segment = "health" then some .health
    else if segment = "version" then some .version
    else none
  | [] :: root :: segment :: rest =>
    if root = "api" then
      match rest with
      | [] => if segment = "infer" then some .inference else none
      | [text] =>
        if segment ≠ "compilers" ∨ text.isEmpty then none
        else if text = "latest" then some .latestCompiler
        else some (.compiler text)
      | _ => none
    -- A file may lie any number of directories deep, but past its first character is one line.
    else if root = "static" && !segment.isEmpty
        && !(segment.drop 1 :: rest).any (·.contains '\n') then
      some .file
    else none
  | _ => none

/-- The methods that a route takes, in alphabetical order. -/
def methods : Route → List Text
  | .inference => ["OPTIONS", "POST"]
  | _ => ["GET", "HEAD", "OPTIONS"]

end Route

/-- What becomes of a request by its method and path. -/
inductive Dispatch where
  /-- A route takes it. -/
  | taken (route : Route)
  /-- It asks what methods a route takes. -/
  | inquired (methods : List Text)
  /-- It is sent to a path with fewer slashes. -/
  | redirected (path : Text)
  /-- Its path takes only these methods. -/
  | notAllowed (methods : List Text)
  /-- Its path leads nowhere. -/
  | notFound
  deriving DecidableEq, Repr

namespace Dispatch

/-- A path with one slash in place of each row of them. -/
def mergeSlashes : Text → Text
  | [] => []
  | c :: rest =>
    if c == '/' && rest.head? == some (.char '/') then mergeSlashes rest else c :: mergeSlashes rest

/-- A path with exactly one slash in front; the empty path stays empty. -/
def rooted : Text → Text
  | [] => []
  | path => "/" ++ path.dropWhile fun c : CodePoint => c == '/'

/-- What becomes of a request with a method in capitals. -/
def ofRequest (method path : Text) : Dispatch :=
  let path := rooted path
  let merged := mergeSlashes path
  let taker? (path : Text) : Option Route :=
    (Route.ofPath? path).filter fun route => route.methods.contains method
  -- A path with fewer slashes is tried before a method is refused.
  match taker? path, taker? merged, Route.ofPath? path <|> Route.ofPath? merged with
  | some route, _, _ =>
    if method = "OPTIONS" then .inquired route.methods else .taken route
  | none, some _, _ => .redirected merged
  | none, none, some route => .notAllowed route.methods
  | none, none, none => .notFound

end Dispatch

end SolcRelease
