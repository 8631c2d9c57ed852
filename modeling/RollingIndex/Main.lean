import RollingIndex.Admin.Handler
import RollingIndex.Json.Writer
import RollingIndex.Launch

/-!
# The program

Reads the command line and the files it names, starts the deployment and then answers the requests
on standard input, one a line: a method, a target, and a JSON body, if there is one. The configured
interval passes between two sweeps at least.
-/

open RollingIndex

/-- Print a line of the log, unless it is a detail. -/
def printLogLine (line : LogLine) : IO Unit := do
  let source := (line.source.map (" source=" ++ ·)).getD ""
  match line.level with
  | .error => IO.println ("ERROR " ++ line.text ++ source)
  | .warn => IO.println ("WARN " ++ line.text ++ source)
  | .info => IO.println ("INFO " ++ line.text ++ source)
  | .debug => pure ()

/-- Of some files, those that can be read. -/
def readFiles (paths : List String) : IO Files := do
  let contents ← paths.mapM fun (path : String) => do
    let content ← (IO.FS.readBinFile path).toBaseIO
    return content.toOption.map ((path, ·))
  return fun path => (contents.filterMap id).lookup path

/-- The request on a line, if it is well formed. -/
def requestOfLine (line : String) : Option Request :=
  let text := (line.toList.reverse.dropWhile fun c => c = '\n' || c = '\r').reverse
  let rest := (text.dropWhile (· ≠ ' ')).drop 1
  Request.of? (String.ofList (text.takeWhile (· ≠ ' '))) (String.ofList (rest.takeWhile (· ≠ ' ')))
    (some "application/json") (String.ofList ((rest.dropWhile (· ≠ ' ')).drop 1)).toUTF8.toList

/-- Answer the requests on a stream until it ends. A sweep is due when the clock, in milliseconds,
has reached a given time. -/
partial def serve (input : IO.FS.Stream) (service : Service) (due : Nat) : IO Unit := do
  let now ← IO.monoMsNow
  if due ≤ now then
    let (_, desk) := Effect.on service.deployment.sweepRound service.desk
    desk.log.forM printLogLine
    let next := now + service.config.retention.intervalSecs * 1000
    serve input { service with desk := { desk with log := [] } } next
  else
    let line ← input.getLine
    if line.isEmpty then IO.println "INFO Shutting down..."
    else
      match requestOfLine line with
      | none =>
        IO.println "400 "
        serve input service due
      | some request =>
        let (response, desk) := service.deployment.handle request service.desk
        desk.log.forM printLogLine
        IO.println (toString response.status ++ " " ++ (response.body.map Json.compact).getD "")
        serve input { service with desk := { desk with log := [] } } due

/-- Start with some options and serve until the input ends. -/
def runService (options : Options) : IO UInt32 := do
  let configFiles ← readFiles options.config.toList
  match options.configure configFiles with
  | .error fault =>
    IO.eprintln ("Error: " ++ fault.message)
    return 1
  | .ok config =>
    let launch := config.launch (← readFiles config.indexer.mappingFile.toList)
    launch.log.forM printLogLine
    match launch.result with
    | .error fault =>
      IO.eprintln ("Error: " ++ fault.message)
      return 1
    | .ok service =>
      serve (← IO.getStdin) service (← IO.monoMsNow)
      return 0

/-- The program. -/
def main (words : List String) : IO UInt32 := do
  match Invocation.ofWords words with
  | .error fault =>
    IO.eprintln ("error: " ++ fault.message ++ "\n\nFor more information, try '--help'.")
    return 2
  | .ok .help =>
    IO.print helpText
    return 0
  | .ok .version =>
    IO.print versionText
    return 0
  | .ok (.start options) => runService options
