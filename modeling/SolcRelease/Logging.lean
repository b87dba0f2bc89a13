import SolcRelease.Activity
import SolcRelease.Decimal.Numeral
import SolcRelease.Text.Path
import SolcRelease.Text.UpperCase

/-!
How the service logs: from which level on, and into which file.

It is the first to set up logging in its process: where records are taken care of already, the
level would stay what it is.
-/

namespace SolcRelease

/-- A file that takes log records. -/
structure LogFile where
  /-- The path of the file, from the root. -/
  path : Text
  /-- How many bytes it may grow to. -/
  maxBytes : Int
  /-- How many old files are kept. -/
  backups : Int
  /-- The least level that it takes. -/
  level : Level
  deriving DecidableEq, Repr

/-- How a service logs. -/
structure Logging where
  /-- The least level that is logged. -/
  level : Level
  /-- The file that records go to, if there is one. -/
  file : Option LogFile
  deriving DecidableEq, Repr

/-- The level with a name in capitals; every other name stands for the normal level. -/
def Level.named (name : Text) : Except Fault Level :=
  if name = "DEBUG" then .ok .debug
  else if name = "WARN" ∨ name = "WARNING" then .ok .warning
  else if name = "ERROR" then .ok .error
  else if name = "CRITICAL" ∨ name = "FATAL" then .ok .critical
  else if name = "NOTSET" then .ok .unset
  -- Two names stand for the layout of log lines, and no level can be made of that.
  else if name = "BASIC_FORMAT" then .error .levelNamesLayout
  else if name = "_STYLES" then .error .levelNamesLayouts
  else .ok .info

namespace LogFile

/-- The line of a record, of which only the first line of the message is kept. -/
def line (record : Record) : Text :=
  "[" ++ record.level.name ++ "] " ++ record.logger.name ++ ": "
    ++ record.message.takeWhile fun c : CodePoint => c != '\n' && c != '\r'

/-- Tells whether a file takes a record; no file can hold a lone half of a surrogate pair. -/
def takes (file : LogFile) (record : Record) : Bool :=
  file.level.rank ≤ record.level.rank && !record.message.any CodePoint.isHalf

/-- The lines that a file takes from some records. -/
def lines (file : LogFile) (records : List Record) : List Text :=
  (records.filter file.takes).map line

end LogFile

namespace Logging

/-- The level at which the web server itself logs. -/
def serverLevel : Level :=
  .warning

/-- The whole number in a setting, if it holds one. -/
def number? (settings : Settings) (setting : Setting) (default : Text) : Option Int :=
  (Numeral.whole (settings.getOr setting default)).toOption

/-- The log file of a path, if its settings are numbers and it can be opened. -/
def fileAt? (world : World) (level : Level) (path : Text) : Option LogFile := do
  let maxBytes ← number? world.settings .logMaxBytes "5242880"
  let backups ← number? world.settings .logBackups "5"
  let place := Path.absolute world.directory path
  if world.opens place then some ⟨place, maxBytes, backups, level⟩ else none

/-- Attaches the log file, if one is configured; what comes of it is logged. -/
def attachFile (level : Level) : Activity (Option LogFile) := do
  let world ← read
  match world.settings.nonempty? .logFile with
  | none => return none
  | some path =>
    match fileAt? world level path with
    | some file =>
      Activity.log .service .info ("RotatingFileHandler attached path=" ++ path
        ++ " max_bytes=" ++ Decimal.signed file.maxBytes
        ++ " backups=" ++ Decimal.signed file.backups)
      return some file
    | none =>
      Activity.log .service .warning
        ("failed attaching RotatingFileHandler for " ++ path)
      return none

/-- Sets up logging under the settings in force. -/
def setUp : Activity Logging := do
  let settings ← Activity.settings
  let name := Text.upperCase (settings.getOr .logLevel "INFO")
  let level ← Activity.ofOutcome ((Level.named name).mapError .fault)
  let file ← attachFile level
  Activity.log .service .info ("Logging initialized at level " ++ name)
  return ⟨level, file⟩

end Logging

end SolcRelease
