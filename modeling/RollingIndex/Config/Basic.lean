import RollingIndex.Failure
import RollingIndex.Json.Reader
import RollingIndex.Naming

/-!
# Configuration

A `Config` has three sections; every setting has a default. `Config.validate` says which
configurations are accepted, and of several faults it names the first in a fixed order. The mapping
that new indices get is read from a file, or, if none is configured, names the analyzer only.
-/

namespace RollingIndex

/-- The kinds of storage that a recent index may ask for. -/
def offeredStoreTypes : List String := ["niofs", "simplefs", "mmapfs", "memory"]

/-- Nothing, if the kind of storage is one of those offered. -/
def checkStoreType (given : String) : Except Failure Unit :=
  if given ∈ offeredStoreTypes then .ok ()
  else .error (.invalidStoreType given (String.intercalate ", " offeredStoreTypes))

/-- The settings of the indices. -/
structure IndexerConfig where
  /-- what the names of the rotated indices begin with -/
  indexPrefix : String := "graylog2"
  /-- the name of the recent index -/
  recentIndexName : String := "graylog2_recent"
  /-- the kind of storage of the recent index -/
  recentStoreType : String := "niofs"
  /-- number of shards of a new index -/
  shards : Nat := 4
  /-- number of copies of each shard of a new index -/
  replicas : Nat := 0
  /-- the analyzer that the mapping names if there is no file for it -/
  analyzer : String := "standard"
  /-- lifetime of a document in the recent index; zero for no limit -/
  recentTtlMinutes : Nat := 60
  /-- the file that the mapping of a new index is read from -/
  mappingFile : Option String := none
deriving DecidableEq, Repr

/-- The settings of retention. -/
structure RetentionConfig where
  /-- number of rotated indices to keep -/
  maxIndices : Nat := 20
  /-- seconds between two sweeps -/
  intervalSecs : Nat := 300
deriving DecidableEq, Repr

/-- A configuration. -/
structure Config where
  /-- the settings of the indices -/
  indexer : IndexerConfig := {}
  /-- the settings of retention -/
  retention : RetentionConfig := {}
  /-- the port of the admin interface -/
  port : Nat := 6061
deriving DecidableEq, Repr

/-- Why a configuration cannot be used. -/
inductive ConfigFault where
  /-- the file cannot be read as text -/
  | unreadable
  /-- the text is not a configuration -/
  | malformed
  /-- the mapping file cannot be read as text -/
  | mappingUnreadable
  /-- the mapping file is not one JSON value -/
  | mappingMalformed
  /-- the index prefix is empty -/
  | emptyPrefix
  /-- the name of the recent index is empty -/
  | emptyRecentName
  /-- the name of the recent index is the name of a rotated index -/
  | recentNameCollides (name : String)
  /-- there are no shards -/
  | noShards
  /-- a store or a deployment refuses the configuration -/
  | failure (failure : Failure)
  /-- the interval between two sweeps is zero -/
  | zeroInterval
  /-- the port is zero -/
  | zeroPort
deriving DecidableEq, Repr

/-- The wording of a fault. -/
def ConfigFault.message : ConfigFault → String
  | unreadable => "Failed to read config file"
  | malformed => "Failed to parse config file"
  | mappingUnreadable => "Failed to read mapping file"
  | mappingMalformed => "Failed to parse mapping file"
  | emptyPrefix => "index_prefix cannot be empty"
  | emptyRecentName => "recent_index_name cannot be empty"
  | recentNameCollides name =>
    "recent_index_name '" ++ name ++ "' collides with rotated index names"
  | noShards => "shards must be at least 1"
  | failure f => f.message
  | zeroInterval => "retention.interval_secs cannot be 0"
  | zeroPort => "Server port cannot be 0"

/-- The content of the files that can be read, by path. -/
abbrev Files := String → Option ByteArray

namespace IndexerConfig

/-- The names of the deployment. -/
def naming (config : IndexerConfig) : Naming := ⟨config.indexPrefix, config.recentIndexName⟩

/-- The lifetime of a document in the recent index in minutes, if it is limited. -/
def recentTtl (config : IndexerConfig) : Option Nat :=
  if config.recentTtlMinutes = 0 then none else some config.recentTtlMinutes

/-- The mapping of a new index. -/
def loadMapping (config : IndexerConfig) (files : Files) : Except ConfigFault Json :=
  match config.mappingFile with
  | none => .ok (.object [("analyzer", .text config.analyzer)])
  | some path =>
    match (files path).bind String.fromUTF8? with
    | none => .error .mappingUnreadable
    | some text =>
      match Json.parse? text.toUTF8.toList with
      | some mapping => .ok mapping
      | none => .error .mappingMalformed

end IndexerConfig

namespace Config

/-- Nothing, if the configuration is accepted, else its first fault. -/
def validate (config : Config) : Except ConfigFault Unit :=
  let indexer := config.indexer
  if indexer.indexPrefix = "" then .error .emptyPrefix
  else if indexer.recentIndexName = "" then .error .emptyRecentName
  else if (indexer.naming.indexNumber? indexer.recentIndexName).isSome then
    .error (.recentNameCollides indexer.recentIndexName)
  else if indexer.shards = 0 then .error .noShards
  else
    match checkStoreType indexer.recentStoreType with
    | .error f => .error (.failure f)
    | .ok () =>
      if config.retention.intervalSecs = 0 then .error .zeroInterval
      else if config.port = 0 then .error .zeroPort
      else .ok ()

end Config

end RollingIndex
