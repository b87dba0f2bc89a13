import SolcRelease.Json.Writer
import SolcRelease.Launch

/-!
The command line: starts the service under the environment's settings, and answers requests that
come as lines of standard input, each a method, an address and, for some, a body.
-/

namespace SolcRelease

namespace CommandLine

/-- The settings that the environment holds. -/
def settings : IO Settings := do
  let mut held := Settings.unset
  for setting in Setting.all do
    let value ← IO.getEnv setting.name.toString
    held := held.update setting (value.map Text.ofString)
  return held

/-- Tells whether the file of a path can be opened for writing, by opening it. -/
def canOpen (path : Text) : IO Bool := do
  try
    let _ ← IO.FS.Handle.mk path.toString IO.FS.Mode.append
    return true
  catch _ => return false

/-- The world that the program finds itself in, which has no way to the release catalog. -/
def world (settings : Settings) : IO World := do
  let directory := Text.ofString (← IO.currentDir).toString
  let place := (settings.nonempty? .logFile).map (Path.absolute directory)
  let usable ←
    match place with
    | some path => canOpen path
    | none => pure false
  return {
    settings
    transport := fun _ => .unreachable "ConnectionError" "no transport"
    room := ⟨1000, 1000, 1000, by decide⟩
    uptime := 0
    directory
    opens := fun path => usable && place == some path }

/-- Writes the records that a service logs to standard error, and to its log file if it has one. -/
def report (logging : Logging) (records : List Record) : IO Unit := do
  for record in records do
    if logging.level.rank ≤ record.level.rank then
      IO.eprintln (LogFile.line record).toString
  match logging.file with
  | none => return ()
  | some file =>
    let handle ← IO.FS.Handle.mk file.path.toString IO.FS.Mode.append
    for line in file.lines records do
      handle.putStrLn line.toString

/-- The request that a line describes. -/
def requestOf (line : Text) : Request :=
  let method := line.upTo ' '
  let rest : Text := (line.fromFirst ' ').drop 1
  let body := (rest.fromFirst ' ').drop 1
  { method
    address := rest.upTo ' '
    contentType := if body.isEmpty then none else some "application/json"
    body := Utf8.encode body }

/-- The lines that show an answer: its status, and its document if it carries one. -/
def answerLines (answer : Answer) : List Text :=
  Decimal.digits answer.status
    :: match answer.content with
      | .document value => [value.written]
      | _ => []

/-- Answers the requests of standard input, line by line, until it ends. -/
partial def serve (world : World) (running : Running) (start : Nat) : IO Unit := do
  let line ← (← IO.getStdin).getLine
  if line.isEmpty then return ()
  let request := requestOf ((Text.ofString line).strip)
  let uptime := ((← IO.monoMsNow) - start) / 10
  let (outcome, journal) := (running.service.handle request).runAfter { world with uptime } []
  report running.logging journal.records
  match outcome with
  | .ok answer =>
    for line in answerLines answer do
      IO.println line.toString
  | .error failure => IO.eprintln failure.message.toString
  serve world running start

/-- Starts the service and serves. -/
def run : IO UInt32 := do
  let start ← IO.monoMsNow
  let world ← world (← settings)
  let (outcome, journal) := (Launch.start true).runAfter world []
  match outcome with
  | .ok (running, launch) =>
    report running.logging journal.records
    match launch with
    | some launch =>
      IO.println s!"{launch.host.toString}:{launch.port}"
      serve world running start
    | none => pure ()
    return 0
  | .error failure =>
    IO.eprintln failure.message.toString
    return 1

end CommandLine

end SolcRelease

/-- Runs the command line. -/
def main : IO UInt32 :=
  SolcRelease.CommandLine.run
