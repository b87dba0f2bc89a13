import SolcRelease.Logging
import SolcRelease.Service.Basic

/-! Starting the service. -/

namespace SolcRelease

/-- A service that is ready for requests, with its logging. -/
structure Running where
  /-- The service. -/
  service : Service
  /-- How it logs. -/
  logging : Logging

/-- How the web server is run. -/
structure Launch where
  /-- The address to listen on. -/
  host : Text
  /-- The port to listen on. -/
  port : Int
  /-- Whether failures are shown to clients, for debugging. -/
  debug : Bool
  /-- Whether the service restarts when it is edited. -/
  reload : Bool
  deriving DecidableEq, Repr

/-- Makes a service with a decoder, if there is one, under the settings in force. -/
def Service.create (decoder : Option Decoder) : Activity Running := do
  let logging ← Logging.setUp
  let settings ← Activity.settings
  return ⟨⟨decoder, settings.getOr .serviceVersion "0.1.0"⟩, logging⟩

namespace Launch

/-- The port under given settings. -/
def portOf (settings : Settings) : Except Failure Int :=
  let text := settings.getOr .port "5000"
  match Numeral.whole text with
  | .ok port => .ok port
  | .error .malformed => .error (.fault (.notAWholeNumber text))
  | .error (.tooLong excess) => .error (.ofExcess excess)

/-- How to run the web server under given settings. -/
def ofSettings (settings : Settings) : Except Failure Launch := do
  let debug := settings .debugServer == some ("1" : Text)
  let port ← portOf settings
  .ok ⟨"0.0.0.0", port, debug, debug⟩

/-- Makes a service without decoder, and tells how to run its server if it is to be run. -/
def start (serves : Bool) : Activity (Running × Option Launch) := do
  let running ← Service.create none
  if serves then
    let settings ← Activity.settings
    let launch ← Activity.ofOutcome (ofSettings settings)
    return (running, some launch)
  else return (running, none)

end Launch

end SolcRelease
