import RollingIndex.Config.Basic
import RollingIndex.Store.Bulk

/-!
# Deployments

A deployment is one user of a store. It rotates its indices, writes documents, purges them and
sweeps old indices away. Several deployments may share a store; each keeps for itself a `Ledger`
with the date ranges of its indices and the record of what it did.

An `Action` is an operation of a deployment. It works at a `Desk`: the store, the deployment's
ledger and the lines that were logged.
-/

namespace RollingIndex

/-! ## What a deployment knows and keeps -/

/-- Where the record of what a deployment does goes. -/
inductive AuditSink where
  /-- into its ledger -/
  | ledger
  /-- into the log -/
  | log
deriving DecidableEq, Repr

/-- A user of a store. -/
structure Deployment where
  /-- the names it uses -/
  naming : Naming
  /-- number of shards of a new index -/
  shards : Nat
  /-- number of copies of each shard of a new index -/
  replicas : Nat
  /-- the kind of storage of the recent index -/
  recentStoreType : String
  /-- the lifetime of a document in the recent index in minutes, if it is limited -/
  recentTtl : Option Nat
  /-- the mapping of a new index -/
  mapping : Json
  /-- number of rotated indices to keep -/
  maxIndices : Nat
  /-- where its record goes -/
  audit : AuditSink := .ledger

/-- The deployment of a configuration, with the mapping loaded for it. -/
def Deployment.ofConfig (config : Config) (mapping : Json) (audit : AuditSink) : Deployment where
  naming := config.indexer.naming
  shards := config.indexer.shards
  replicas := config.indexer.replicas
  recentStoreType := config.indexer.recentStoreType
  recentTtl := config.indexer.recentTtl
  mapping := mapping
  maxIndices := config.retention.maxIndices
  audit := audit

/-- The times that the messages of an index cover, in seconds; both ends count in. -/
structure DateRange where
  /-- the time of the first message -/
  first : Int
  /-- the time of the last message -/
  last : Int
deriving DecidableEq, Repr

/-- One entry of the record of what a deployment did. -/
structure Activity where
  /-- the part of the deployment that did it -/
  source : String
  /-- what was done -/
  message : String
deriving DecidableEq, Repr

/-- What a deployment keeps for itself. -/
structure Ledger where
  /-- the date ranges of its indices -/
  ranges : Table DateRange := ∅
  /-- what it did, in order -/
  activity : List Activity := []

/-- How urgent a line of the log is. -/
inductive LogLevel where
  /-- something failed -/
  | error
  /-- something may need attention -/
  | warn
  /-- something was done -/
  | info
  /-- a detail -/
  | debug
deriving DecidableEq, Repr

/-- A line of the log. -/
structure LogLine where
  /-- how urgent it is -/
  level : LogLevel
  /-- what it says -/
  text : String
  /-- for an entry of the record: the part of the deployment it is about -/
  source : Option String := none
deriving DecidableEq, Repr

/-! ## Actions -/

/-- What an action of a deployment works on. -/
structure Desk where
  /-- the store, which other deployments may use too -/
  store : Store
  /-- the ledger of this deployment -/
  ledger : Ledger := {}
  /-- the lines logged, in order -/
  log : List LogLine := []

/-- An operation of a deployment. -/
abbrev Action (α : Type) := Effect Desk α

namespace Action

/-- Put a question to the store. -/
def ask {α : Type} (question : Store → Except Failure α) : Action α := do
  let desk ← get
  question desk.store

/-- Perform an operation on the store. -/
def onStore {α : Type} (change : Change α) : Action α := do
  let desk ← get
  let (outcome, store) := Effect.on change desk.store
  set { desk with store := store }
  outcome

/-- Log some lines. -/
def logLines (lines : List LogLine) : Action Unit :=
  modify fun desk => { desk with log := desk.log ++ lines }

/-- Log a line. -/
def log (level : LogLevel) (text : String) : Action Unit := logLines [{ level, text }]

@[simp] theorem on_ask {α : Type} (question : Store → Except Failure α) (desk : Desk) :
    Effect.on (ask question) desk = (question desk.store, desk) := by
  simp [ask]

@[simp] theorem on_onStore {α : Type} (change : Change α) (desk : Desk) :
    Effect.on (onStore change) desk =
      ((Effect.on change desk.store).1,
        { desk with store := (Effect.on change desk.store).2 }) := by
  simp [onStore]

@[simp] theorem on_logLines (lines : List LogLine) (desk : Desk) :
    Effect.on (logLines lines) desk = (.ok (), { desk with log := desk.log ++ lines }) := by
  simp [logLines]

/-- Enter something into the record of the deployment. -/
def record (deployment : Deployment) (entry : Activity) : Action Unit :=
  modify fun desk =>
    match deployment.audit with
    | .ledger =>
      { desk with ledger := { desk.ledger with activity := desk.ledger.activity ++ [entry] } }
    | .log =>
      let line : LogLine :=
        { level := .info, text := entry.message, source := some entry.source }
      { desk with log := desk.log ++ [line] }

end Action

namespace Ledger

/-- Remember the date range of an index. -/
def setRange (ledger : Ledger) (index : String) (range : DateRange) : Ledger :=
  { ledger with ranges := ledger.ranges.insert index range }

end Ledger

/-- Forget the date range of an index, if there is one. -/
def Action.removeRange (index : String) : Action Unit := do
  let desk ← get
  if desk.ledger.ranges.contains index then
    set { desk with ledger := { desk.ledger with ranges := desk.ledger.ranges.erase index } }
    Action.log .debug ("Removed date range of index <" ++ index ++ ">")

end RollingIndex
