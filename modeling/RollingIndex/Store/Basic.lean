import RollingIndex.Json.Writer
import RollingIndex.Pattern.Basic
import RollingIndex.Failure
import RollingIndex.Store.AliasTable

/-!
# The store

A store holds indices, the table of aliases that lead to them, the nodes it runs on and a record of
the last bulk requests. An index has settings, a mapping, a creation order and documents. The store
can be told to fail (`Faults`).

This module holds the data and the questions that change nothing. A question fails only if the store
cannot be reached; the questions under *Inspection* look into the store itself and never fail.
-/

namespace RollingIndex

/-! ## Indices -/

/-- The settings that an index is created with. -/
structure IndexSettings where
  /-- number of shards -/
  shards : Nat
  /-- number of copies of each shard -/
  replicas : Nat
  /-- kind of storage, if one was asked for -/
  storeType : Option String := none
deriving DecidableEq, Repr

/-- A document and its lifetime. A lifetime of zero minutes is over at once; any other is never over
while a store is looked at. -/
structure Document where
  /-- the content -/
  source : Json
  /-- the lifetime in minutes, if it is limited -/
  ttlMinutes : Option Nat

/-- Whether the lifetime of the document is not over. -/
def Document.isLive (document : Document) : Bool := document.ttlMinutes != some 0

/-- Whether the value of a field is an integer between two bounds, which count in. -/
def Document.inRange (field : String) (first last : Int) (document : Document) : Bool :=
  match (document.source.field? field).bind Json.int64? with
  | some n => first ≤ n && n ≤ last
  | none => false

/-- What is known of an index without looking at its documents. -/
structure IndexStats where
  /-- the name of the index -/
  name : String
  /-- number of live documents -/
  primaryDocs : Nat
  /-- summed size of the live documents -/
  sizeBytes : Nat
  /-- place in the order of creation: a smaller one is older -/
  creationOrder : Nat
deriving DecidableEq, Repr

/-- An index. -/
structure Index where
  /-- the settings it was created with -/
  settings : IndexSettings
  /-- the mapping, once one was put -/
  mapping : Option Json := none
  /-- place in the order of creation -/
  creationOrder : Nat
  /-- the documents by id -/
  documents : Table Document := ∅

namespace Index

/-- The documents whose lifetime is not over. -/
def visible (index : Index) : Table Document := index.documents.filter fun _ => Document.isLive

/-- The statistics of an index under its name. -/
def stats (name : String) (index : Index) : IndexStats where
  name := name
  primaryDocs := index.visible.size
  sizeBytes := index.visible.total (·.source.size)
  creationOrder := index.creationOrder

end Index

/-! ## Bulk requests as they are recorded -/

/-- How many copies must have applied a write before it counts. -/
inductive Consistency where
  /-- one copy -/
  | one
  /-- most of the copies -/
  | quorum
  /-- every copy -/
  | all
deriving DecidableEq, Repr

/-- Whether a write waits for the copies. -/
inductive Replication where
  /-- it waits -/
  | sync
  /-- it does not wait -/
  | async
deriving DecidableEq, Repr

/-- What is remembered of a bulk request. -/
structure BulkTrace where
  /-- number of its items -/
  items : Nat
  /-- the consistency it asked for -/
  consistency : Consistency
  /-- the replication it asked for -/
  replication : Replication
deriving DecidableEq, Repr

/-- The number of bulk requests that are remembered. -/
def BulkTrace.capacity : Nat := 256

/-! ## Faults -/

/-- How a store is told to fail. -/
structure Faults where
  /-- nothing can be reached -/
  unavailable : Bool := false
  /-- creations are confirmed -/
  acknowledgesCreates : Bool := true
  /-- mappings are confirmed -/
  acknowledgesMappings : Bool := true
  /-- changes of aliases are confirmed -/
  acknowledgesAliases : Bool := true
  /-- documents that are refused, by the index named in the request and the id -/
  rejectedDocuments : List (String × String) := []
  /-- indices whose deletion fails -/
  failingDeletes : NameSet := ∅
  /-- names that make every bulk request fail that has an item for them -/
  failingBulks : NameSet := ∅

/-- One change of how a store fails. -/
inductive FaultSwitch where
  /-- reach nothing, or everything again -/
  | unavailable (on : Bool)
  /-- confirm creations or not -/
  | acknowledgeCreates (on : Bool)
  /-- confirm mappings or not -/
  | acknowledgeMappings (on : Bool)
  /-- confirm changes of aliases or not -/
  | acknowledgeAliases (on : Bool)
  /-- refuse a document from now on -/
  | rejectDocument (index id : String)
  /-- let the deletion of an index fail from now on -/
  | failDelete (index : String)
  /-- let bulk requests with an item for a name fail from now on -/
  | failBulk (index : String)
deriving DecidableEq, Repr

/-- The faults after a switch. -/
def Faults.set (faults : Faults) : FaultSwitch → Faults
  | .unavailable on => { faults with unavailable := on }
  | .acknowledgeCreates on => { faults with acknowledgesCreates := on }
  | .acknowledgeMappings on => { faults with acknowledgesMappings := on }
  | .acknowledgeAliases on => { faults with acknowledgesAliases := on }
  | .rejectDocument index id =>
    { faults with rejectedDocuments := faults.rejectedDocuments.insert (index, id) }
  | .failDelete index => { faults with failingDeletes := faults.failingDeletes.add index }
  | .failBulk index => { faults with failingBulks := faults.failingBulks.add index }

/-! ## Nodes and the store -/

/-- A machine that the store runs on. -/
structure NodeInfo where
  /-- its name -/
  name : String
  /-- the host it is on -/
  hostname : String
deriving DecidableEq, Repr

/-- A store. -/
structure Store where
  /-- the indices by name -/
  indices : Table Index := ∅
  /-- the aliases -/
  aliases : AliasTable := ∅
  /-- the creation order that the next index gets -/
  nextOrder : Nat := 0
  /-- the nodes by id -/
  nodes : Table NodeInfo := ∅
  /-- the last bulk requests, the oldest first -/
  trace : List BulkTrace := []
  /-- how the store fails -/
  faults : Faults := {}

instance : Inhabited Store := ⟨{}⟩

namespace Store

/-- The store with one fault switched. -/
def switch (store : Store) (fault : FaultSwitch) : Store :=
  { store with faults := store.faults.set fault }

/-- The store with a node added or replaced. -/
def addNode (store : Store) (id : String) (node : NodeInfo) : Store :=
  { store with nodes := store.nodes.insert id node }

/-! ## Questions -/

/-- Nothing, if the store can be reached. -/
def available (store : Store) : Except Failure Unit :=
  if store.faults.unavailable then .error (.storeUnavailable "memory store marked unreachable")
  else .ok ()

/-- Whether there is an index of that name; an alias does not count. -/
def hasIndex (store : Store) (name : String) : Except Failure Bool := do
  store.available
  return store.indices.contains name

/-- The indices that a pattern selects. -/
def selected (store : Store) (pattern : String) : Table Index :=
  store.indices.filter fun name _ => (Pattern.ofText pattern).selects name

/-- The statistics of the indices that a pattern selects. -/
def stats (store : Store) (pattern : String) : Except Failure (Table IndexStats) := do
  store.available
  return (store.selected pattern).map Index.stats

/-- The settings of the indices that a pattern selects. -/
def clusterState (store : Store) (pattern : String) : Except Failure (Table IndexSettings) := do
  store.available
  return (store.selected pattern).map fun _ => Index.settings

/-- The indices that an alias is bound to, ascending. -/
def aliasTargets (store : Store) (aliasName : String) : Except Failure (List String) := do
  store.available
  return store.aliases.targets aliasName

/-- What is known of a node. -/
def nodeInfo (store : Store) (id : String) : Except Failure NodeInfo := do
  store.available
  match store.nodes.get? id with
  | some node => return node
  | none => throw (.nodeNotFound id)

/-- The number of nodes. -/
def nodeCount (store : Store) : Except Failure Nat := do
  store.available
  return store.nodes.size

/-! ## Inspection -/

/-- A document whose lifetime is not over. -/
def document? (store : Store) (index id : String) : Option Document :=
  (store.indices.get? index).bind fun i => i.visible.get? id

/-- The settings of an index. -/
def settings? (store : Store) (index : String) : Option IndexSettings :=
  (store.indices.get? index).map (·.settings)

/-- The mapping of an index. -/
def mapping? (store : Store) (index : String) : Option Json :=
  (store.indices.get? index).bind (·.mapping)

end Store

end RollingIndex
