import SolcRelease.Activity
import SolcRelease.Catalog.Basic
import SolcRelease.Decimal.Numeral

/-! Fetching the release catalog. -/

namespace SolcRelease

namespace Catalog

/-- The address of the official catalog. -/
def officialUrl : Text :=
  "https://raw.githubusercontent.com/ethereum/solc-bin/gh-pages/bin/list.json"

/-- The address to ask under given settings. -/
def urlOf (settings : Settings) : Text :=
  (settings.nonempty? .catalogUrl).getD officialUrl

/-- How long to wait under given settings; a text that is no number counts as ten seconds. -/
def timeoutOf (settings : Settings) : Seconds :=
  let ten := Binary64.ofFraction false 10 1
  .real ((Numeral.real? (settings.getOr .catalogTimeout "10")).getD ten)

/-- What is logged about a fault, if anything. -/
def warning? (url : Text) : CatalogFault → Option Text
  | .unreachable _ message =>
    some ("catalog fetch failed url=" ++ url ++ " err=" ++ message)
  | .badStatus status _ =>
    some ("catalog fetch not ok url=" ++ url ++ " status="
      ++ Decimal.signed status)
  | .notJson _ failure =>
    some ("catalog body is not JSON url=" ++ url ++ " err=" ++ failure.message)
  | .notObject _ | .latestUnusable _ | .stated _ _ _ => none

/-- Tells whether a status reports success. -/
def isGoodStatus (status : Int) : Bool :=
  !(400 ≤ status && status < 600)

/-- The members of the document that a response has for a body, which must be an object. -/
def membersIn (room : Nat) (response : Response) : Except (CatalogFault ⊕ Failure) (Entries Json) :=
  match response.source with
  | .error (.broken fault) => .error (.inr (.fault fault))
  | .error (.noText kind message) =>
    .error (.inl (.notJson response.status (.noText kind message)))
  | .ok text =>
    match Json.read room text with
    | .error (.tooDeep enclosure) => .error (.inr (.fault (.documentTooDeep enclosure)))
    | .error failure => .error (.inl (.notJson response.status (.unreadable failure)))
    | .ok (.object members) => .ok members
    | .ok _ => .error (.inl (.notObject response.status))

/-- The members of the document in a delivery, which must be a JSON object. -/
def membersOf (room : Nat) : Delivery → Except (CatalogFault ⊕ Failure) (Entries Json)
  | .unreachable kind message => .error (.inl (.unreachable kind message))
  | .broken failure => .error (.inr failure)
  | .response response =>
    if isGoodStatus response.status then membersIn room response
    else
      -- The text of the body is told along, so it must be made out first.
      match response.text with
      | .ok text => .error (.inl (.badStatus response.status text))
      | .error fault => .error (.inr (.fault fault))

/-- Fetches the catalog, from the address and with the patience given or else configured. -/
def fetch (url : Option Text) (timeout : Option Seconds) : Activity Catalog := do
  let settings ← Activity.settings
  let url := url.getD (urlOf settings)
  let delivery ← Activity.fetch ⟨url, timeout.getD (timeoutOf settings)⟩
  match membersOf (← Activity.room).catalog delivery with
  | .error (.inl fault) =>
    match warning? url fault with
    | some message => Activity.log .catalog .warning message
    | none => pure ()
    Activity.refuse (.catalogUnavailable fault url)
  | .error (.inr failure) => Activity.fail failure
  | .ok members =>
    let catalog ← Activity.ofWriting (ofMembers members)
    Activity.log .catalog .debug ("catalog fetched releases="
      ++ Decimal.digits catalog.releases.length ++ " latest=" ++ catalog.latest)
    return catalog

/-- The catalog given, or else a freshly fetched one. -/
def orFetched : Option Catalog → Activity Catalog
  | some catalog => pure catalog
  | none => fetch none none

end Catalog

end SolcRelease
