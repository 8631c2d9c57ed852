import RollingIndex.CommandLine
import RollingIndex.Config.Text
import RollingIndex.Deployment.Run

/-!
# Starting

To start is to settle on a configuration, to announce it, to load the mapping, and to let the
deployment bind its alias and create its recent index in an empty store of one node. A start that
fails names the first thing that went wrong; it was announced if the configuration was accepted.
-/

namespace RollingIndex

/-! ## The configuration to start with -/

/-- A configuration with what the options set in place of its own settings. -/
def Options.override (options : Options) (config : Config) : Config :=
  { config with
    port := options.port.getD config.port
    retention :=
      { config.retention with maxIndices := options.maxIndices.getD config.retention.maxIndices } }

/-- The configuration of the options. It is accepted both as it is in its file and as the options
change it. -/
def Options.configure (options : Options) (files : Files) : Except ConfigFault Config := do
  let config ← match options.config with
    | some path => Config.ofFile files path
    | none => pure {}
  let config := options.override config
  config.validate
  return config

/-! ## The start -/

/-- What is logged before anything is done. -/
def announcement (config : Config) : LogLine where
  level := .info
  text :=
    "Starting idx-deflector: prefix=" ++ config.indexer.indexPrefix ++ ", recent=" ++
      config.indexer.recentIndexName ++ ", max_indices=" ++ toString config.retention.maxIndices

/-- What is logged when all is done. -/
def readiness (config : Config) : LogLine where
  level := .info
  text :=
    "idx-deflector ready. Write via: POST http://localhost:" ++ toString config.port ++ "/messages"

/-- A store without indices, of one node. -/
def localStore : Store :=
  ({} : Store).addNode "local" { name := "idx-deflector-local", hostname := "localhost" }

/-- A deployment that has started. -/
structure Service where
  /-- its configuration -/
  config : Config
  /-- the deployment -/
  deployment : Deployment
  /-- its store and its ledger -/
  desk : Desk
  /-- the report made at the start -/
  report : Report

/-- How a start went. -/
structure Launch where
  /-- the lines logged, in order -/
  log : List LogLine := []
  /-- what has started, or why nothing has -/
  result : Except ConfigFault Service

/-- Start with a configuration that was accepted. -/
def Config.launch (config : Config) (files : Files) : Launch :=
  match config.indexer.loadMapping files with
  | .error fault => { log := [announcement config], result := .error fault }
  | .ok mapping =>
    let deployment := Deployment.ofConfig config mapping .log
    match Effect.on deployment.bootstrap { store := localStore, log := [announcement config] } with
    | (.error failure, desk) => { log := desk.log, result := .error (.failure failure) }
    | (.ok report, desk) =>
      { log := desk.log ++ [{ level := .info, text := "\n" ++ report.text }, readiness config]
        result := .ok { config, deployment, desk := { desk with log := [] }, report } }

/-- Start with the options of a command line. -/
def Options.launch (options : Options) (files : Files) : Launch :=
  match options.configure files with
  | .error fault => { result := .error fault }
  | .ok config => config.launch files

end RollingIndex
