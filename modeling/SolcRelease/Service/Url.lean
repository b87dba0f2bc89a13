import SolcRelease.Entries
import SolcRelease.Text.Digit
import SolcRelease.Text.Utf8

/-! The addresses of requests: host, path and query, with percent signs decoded. -/

namespace SolcRelease

namespace Url

/-- The value of each pair of digits after a percent sign; other percent signs stay. -/
def percentDecode : Bytes → Bytes
  | 0x25 :: high :: low :: rest =>
    match hexDigit? (Char.ofNat high.toNat), hexDigit? (Char.ofNat low.toNat) with
    | some high, some low => UInt8.ofNat (high * 16 + low) :: percentDecode rest
    | _, _ => 0x25 :: percentDecode (high :: low :: rest)
  | byte :: rest => byte :: percentDecode rest
  | [] => []

/-- The text that a part of an address stands for. -/
def decoded (part : Text) : Text :=
  Utf8.decodeLenient (percentDecode (Utf8.encode part))

/-- Tells whether a character stands for itself in the path of an address. -/
def isPlainInPath (c : CodePoint) : Bool :=
  c.isAlphanum || ("_.-~!$&'()*+,/:;=@" : Text).contains c

/-- Tells whether a character stands for itself in a query; what is encoded already stays so. -/
def isPlainInQuery (c : CodePoint) : Bool :=
  isPlainInPath c || c == '?' || c == '%'

/-- A text in which all but the plain characters are given by percent signs and capital digits. -/
def encoded (isPlain : CodePoint → Bool) (text : Text) : Text :=
  text.flatMap fun c =>
    if isPlain c then [c]
    else (Utf8.encode [c]).flatMap fun byte =>
      "%" ++ (hexText 2 byte.toNat).map CodePoint.toUpper

/-- The fields of a query with their values, of which either may be empty. -/
def fields (query : Text) : List (Text × Text) :=
  let spaced (part : Text) : Text := part.map fun c : CodePoint => if c == '+' then ' ' else c
  ((query.splitOn '&').filter (!·.isEmpty)).map fun field =>
    (decoded (spaced (field.upTo '=')), decoded (spaced ((field.fromFirst '=').drop 1)))

end Url

/-- Where a request goes. -/
structure Target where
  /-- The scheme. -/
  scheme : Text
  /-- The host, with its port unless that is the usual one of the scheme. -/
  host : Text
  /-- The path, decoded. -/
  path : Text
  /-- The query as it stands in the address, empty if there is none. -/
  query : Text
  deriving DecidableEq, Repr

namespace Target

/-- The host that is meant where an address names none. -/
def localHost : Text :=
  "localhost"

/-- Tells whether a character may stand in the name of a scheme. -/
def isInScheme (c : CodePoint) : Bool :=
  c.isAlphanum || c == '+' || c == '-' || c == '.'

/-- The scheme that an address may begin with before a colon, and the rest. -/
def splitScheme (address : Text) : Option Text × Text :=
  match address.takeWhile isInScheme, address.dropWhile isInScheme with
  | first :: name, .char ':' :: rest =>
    if first.isAlpha then (some ((first :: name).map CodePoint.toLower), rest) else (none, address)
  | _, _ => (none, address)

/-- The authority that an address may begin with after two slashes, and the rest. -/
def splitAuthority : Text → Option Text × Text
  | .char '/' :: .char '/' :: rest =>
    let ends (c : CodePoint) : Bool := c == '/' || c == '?' || c == '#'
    (some (rest.takeWhile fun c => !ends c), rest.dropWhile fun c => !ends c)
  | address => (none, address)

/-- An address without what no address holds: breaks anywhere, and controls or blanks in front. -/
def cleaned (address : Text) : Text :=
  (address.dropWhile (·.toNat ≤ 0x20)).filter fun c => c != '\t' && c != '\n' && c != '\r'

/-- The end of an authority that names the usual port of a scheme. -/
def usualPort (scheme : Text) : Text :=
  if scheme = "http" then ":80"
  else if scheme = "https" then ":443"
  else []

/-- The host in an authority, in small letters and without the usual port. -/
def hostOf (scheme authority : Text) : Text :=
  let host := authority.map CodePoint.toLower
  if (usualPort scheme).isSuffixOf host then host.take (host.length - (usualPort scheme).length)
  else host

/--
The target of an address: a path with an optional query and fragment.

The path may follow a scheme and an authority.
-/
def ofAddress (address : Text) : Target :=
  let (scheme, rest) := splitScheme (cleaned address)
  let (authority, rest) := splitAuthority rest
  let resource := rest.upTo '#'
  let query := (resource.fromFirst '?').drop 1
  -- What the path itself begins with like a whole address is passed over as well.
  let (_, path) := splitScheme (resource.upTo '?')
  let (_, path) := splitAuthority path
  let scheme := scheme.getD "http"
  { scheme
    host := hostOf scheme ((authority.filter (!·.isEmpty)).getD localHost)
    path := Url.decoded path
    query }

/-- The first value of a field of the query, if it has the field. -/
def field? (target : Target) (name : Text) : Option Text :=
  Entries.get? (Url.fields target.query) name

/-- The address of a path on the host of a target, with the query of the target. -/
def relocated (target : Target) (path : Text) : Text :=
  let query := Url.encoded Url.isPlainInQuery target.query
  target.scheme ++ "://" ++ target.host ++ Url.encoded Url.isPlainInPath path
    ++ (if query.isEmpty then query else "?" ++ query)

end Target

end SolcRelease
