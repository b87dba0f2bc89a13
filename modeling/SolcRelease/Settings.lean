import SolcRelease.Text.Basic

/-! The settings of the service, each of which holds a text or is unset. -/

namespace SolcRelease

/-- A setting. -/
inductive Setting where
  /-- The first compiler release that appended metadata to bytecode. -/
  | metadataFirst
  /-- The last compiler release whose metadata does not name the compiler. -/
  | versionlessLast
  /-- The address of the release catalog. -/
  | catalogUrl
  /-- How many seconds to wait for the release catalog. -/
  | catalogTimeout
  /-- The name of the least level that is logged. -/
  | logLevel
  /-- The path of the log file. -/
  | logFile
  /-- How many bytes a log file may grow to. -/
  | logMaxBytes
  /-- How many old log files are kept. -/
  | logBackups
  /-- The version of the service itself. -/
  | serviceVersion
  /-- The port on which to listen. -/
  | port
  /-- Whether to run for debugging. -/
  | debugServer
  deriving DecidableEq, Repr

/-- The name of a setting in the environment. -/
def Setting.name : Setting → Text
  | .metadataFirst => "SOLCVER_METADATA_FIRST_VERSION"
  | .versionlessLast => "SOLCVER_VERSIONLESS_METADATA_LAST_VERSION"
  | .catalogUrl => "SOLCVER_COMPILERS_LIST_URL"
  | .catalogTimeout => "SOLCVER_CATALOG_TIMEOUT"
  | .logLevel => "SOLCVER_LOG_LEVEL"
  | .logFile => "SOLCVER_LOG_FILE"
  | .logMaxBytes => "SOLCVER_LOG_MAX_BYTES"
  | .logBackups => "SOLCVER_LOG_BACKUP_COUNT"
  | .serviceVersion => "SOLCVER_VERSION"
  | .port => "SOLCVER_PORT"
  | .debugServer => "SOLCVER_DEBUG_SERVER"

/-- Every setting there is. -/
def Setting.all : List Setting :=
  [.metadataFirst, .versionlessLast, .catalogUrl, .catalogTimeout, .logLevel, .logFile,
    .logMaxBytes, .logBackups, .serviceVersion, .port, .debugServer]

/-- The setting with a name. -/
def Setting.named? (name : Text) : Option Setting :=
  Setting.all.find? (·.name == name)

/-- What each setting holds. -/
def Settings := Setting → Option Text

namespace Settings

/-- Settings of which none is set. -/
def unset : Settings :=
  fun _ => none

/-- The settings after one of them is given a text, or unset. -/
def update (settings : Settings) (setting : Setting) (value : Option Text) : Settings :=
  fun other => if other = setting then value else settings other

/-- What a setting holds, or a default if it is unset. -/
def getOr (settings : Settings) (setting : Setting) (default : Text) : Text :=
  (settings setting).getD default

/-- What a setting holds, if that is more than the empty text. -/
def nonempty? (settings : Settings) (setting : Setting) : Option Text :=
  (settings setting).filter (!·.isEmpty)

end Settings

end SolcRelease
