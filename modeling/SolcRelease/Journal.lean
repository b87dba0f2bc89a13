import SolcRelease.Decimal.Shortest
import SolcRelease.Text.Utf8

/-! The journal of an activity: what it logged, and what it asked of the world outside. -/

namespace SolcRelease

/-- How grave a record is. -/
inductive Level where
  /-- No level at all, below every other. -/
  | unset
  /-- For those who look for an error. -/
  | debug
  /-- The normal course of things. -/
  | info
  /-- Something is amiss. -/
  | warning
  /-- Something has failed. -/
  | error
  /-- Nothing can go on. -/
  | critical
  deriving DecidableEq, Repr

namespace Level

/-- The rank of a level, by which levels are compared. -/
def rank : Level → Nat
  | .unset => 0
  | .debug => 10
  | .info => 20
  | .warning => 30
  | .error => 40
  | .critical => 50

/-- The name of a level. -/
def name : Level → Text
  | .unset => "NOTSET"
  | .debug => "DEBUG"
  | .info => "INFO"
  | .warning => "WARNING"
  | .error => "ERROR"
  | .critical => "CRITICAL"

end Level

/-- The part of the library that a record comes from. -/
inductive Logger where
  /-- The service as a whole. -/
  | service
  /-- The requests to the programming interface. -/
  | api
  /-- The release catalog. -/
  | catalog
  /-- The inference of ranges. -/
  | inference
  deriving DecidableEq, Repr

/-- The name of a logger. -/
def Logger.name : Logger → Text
  | .service => "solcver"
  | .api => "solcver.api"
  | .catalog => "solcver.catalog"
  | .inference => "solcver.inference"

/-- A log record. -/
structure Record where
  /-- Where it comes from. -/
  logger : Logger
  /-- How grave it is. -/
  level : Level
  /-- What it says. -/
  message : Text
  deriving DecidableEq, Repr

/-- A time to wait, in seconds. -/
inductive Seconds where
  /-- A whole number of seconds. -/
  | whole (count : Int)
  /-- Any other number of seconds. -/
  | real (count : Binary64)
  deriving DecidableEq, Repr

/-- The text of a time to wait. -/
def Seconds.text : Seconds → Text
  | .whole count => Decimal.signed count
  | .real count => count.text

/-- A request for the release catalog. -/
structure Inquiry where
  /-- The address asked. -/
  url : Text
  /-- How long to wait. -/
  timeout : Seconds
  deriving DecidableEq, Repr

/-- How the library presents itself to those it asks. -/
def userAgent : Text :=
  "solcver/0.1"

/-- Something that an activity did. -/
inductive Event where
  /-- It asked for the release catalog. -/
  | fetched (inquiry : Inquiry)
  /-- It gave bytecode to the metadata decoder. -/
  | decoded (bytecode : Bytes)
  /-- It logged a record. -/
  | logged (record : Record)
  deriving DecidableEq, Repr

/-- What an activity did, in order. -/
abbrev Journal := List Event

namespace Journal

/-- The requests for the release catalog. -/
def inquiries (journal : Journal) : List Inquiry :=
  journal.filterMap fun
    | .fetched inquiry => some inquiry
    | _ => none

/-- The bytecodes given to the metadata decoder. -/
def decodings (journal : Journal) : List Bytes :=
  journal.filterMap fun
    | .decoded bytecode => some bytecode
    | _ => none

/-- The log records. -/
def records (journal : Journal) : List Record :=
  journal.filterMap fun
    | .logged record => some record
    | _ => none

end Journal

end SolcRelease
