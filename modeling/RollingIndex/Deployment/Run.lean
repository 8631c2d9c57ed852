import RollingIndex.Deployment.Ingest
import RollingIndex.Report.Basic

/-!
# Runs of several deployments

A `Cluster` is a store with the deployments that share it and their ledgers. The operations of a
deployment are values (`Operation`), and so is everything that may happen to a cluster (`Event`):
some deployment performs an operation, with whatever outcome, or a fault of the store is switched. A
run is a list of events, performed on a cluster whose store is empty.
-/

namespace RollingIndex

/-! ## Operations of a deployment -/

/-- An operation of a deployment. -/
inductive Operation where
  /-- rotate if the alias is not bound yet -/
  | setup
  /-- rotate -/
  | cycle
  /-- create the recent index -/
  | createRecentIndex
  /-- create the recent index unless it exists -/
  | ensureRecentIndex
  /-- write a batch -/
  | writeBatch (records : List Record)
  /-- delete messages up to a time -/
  | purge (upTo : Int)
  /-- sweep old indices away -/
  | sweep

/-- What an operation answers when it does not fail. -/
inductive Answer where
  /-- done -/
  | done
  /-- the index that the alias leads to -/
  | index (name : String)
  /-- whether something was done or was done in full -/
  | flag (value : Bool)
  /-- how many documents were deleted -/
  | count (removed : Nat)
  /-- what a sweep did -/
  | swept (report : SweepReport)

/-- Perform an operation. -/
def Deployment.perform (deployment : Deployment) : Operation → Action Answer
  | .setup => return .index (← deployment.setup)
  | .cycle => return .index (← deployment.cycle)
  | .createRecentIndex => do deployment.createRecentIndex; return .done
  | .ensureRecentIndex => return .flag (← deployment.ensureRecentIndex)
  | .writeBatch records => return .flag (← deployment.writeBatch records)
  | .purge upTo => return .count (← deployment.purge upTo)
  | .sweep => return .swept (← deployment.sweep)

/-! ## Clusters -/

/-- A deployment with its ledger. -/
structure Member where
  /-- the deployment -/
  deployment : Deployment
  /-- what it keeps for itself -/
  ledger : Ledger := {}

/-- A store and the deployments that share it. -/
structure Cluster where
  /-- the store -/
  store : Store := {}
  /-- the deployments -/
  members : List Member := []

/-- What an action at a cluster came to. -/
structure Outcome (α : Type) where
  /-- its value or failure -/
  result : Except Failure α
  /-- the lines it logged, in order -/
  log : List LogLine := []

namespace Cluster

/-- A cluster with an empty store. -/
def start (deployments : List Deployment) : Cluster where
  members := deployments.map fun deployment => { deployment }

/-- Let one of the deployments act. Where there is no such deployment nothing happens. -/
def act {α : Type} (cluster : Cluster) (member : Nat) (action : Deployment → Action α) :
    Option (Outcome α) × Cluster :=
  match cluster.members[member]? with
  | none => (none, cluster)
  | some { deployment, ledger } =>
    let (result, desk) := Effect.on (action deployment) { store := cluster.store, ledger }
    (some { result, log := desk.log },
      { store := desk.store,
        members := cluster.members.set member { deployment, ledger := desk.ledger } })

/-- Something that happens to a cluster. -/
inductive Event where
  /-- a deployment performs an operation -/
  | operation (member : Nat) (operation : Operation)
  /-- a fault of the store is switched -/
  | fault (switch : FaultSwitch)

/-- The cluster after an event. -/
def step (cluster : Cluster) : Event → Cluster
  | .operation member operation => (cluster.act member (·.perform operation)).2
  | .fault switch => { cluster with store := cluster.store.switch switch }

/-- The cluster after a run of events. -/
def run (cluster : Cluster) (events : List Event) : Cluster := events.foldl step cluster

end Cluster

/-! ## Starting a deployment -/

/-- What a deployment does when it starts: the alias is bound, the recent index is there, and a
report is made. -/
def Deployment.bootstrap (deployment : Deployment) : Action Report := do
  let _ ← deployment.setup
  let _ ← deployment.ensureRecentIndex
  Action.ask (Report.collect deployment.naming)

end RollingIndex
