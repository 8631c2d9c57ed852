import RollingIndex.Deployment.Basic

/-!
# What a deployment sees of its store

The listings, counts and totals here are asked from the store every time. The *rotated* indices of a
deployment are those selected by its pattern whose name carries a number; the recent index is not
one of them.
-/

namespace RollingIndex

namespace Naming

/-- All indices of the deployment, the recent one included. -/
def listIndices (naming : Naming) (store : Store) : Except Failure (Table IndexStats) :=
  store.stats naming.allPattern

/-- The indices that take part in rotation. -/
def rotatedIndices (naming : Naming) (store : Store) : Except Failure (Table IndexStats) := do
  return (← store.stats naming.rotatedPattern).filter fun name _ => naming.isRotated name

/-- The names of the indices that take part in rotation, ascending. -/
def rotatedNames (naming : Naming) (store : Store) : Except Failure (List String) := do
  return (← naming.rotatedIndices store).keys

/-- The number of documents of one index of the deployment. -/
def documentCount (naming : Naming) (index : String) (store : Store) : Except Failure Nat := do
  match (← naming.listIndices store).get? index with
  | some stats => return stats.primaryDocs
  | none => throw (.indexNotFound index)

/-- The number of documents of all indices of the deployment. -/
def totalMessages (naming : Naming) (store : Store) : Except Failure Nat := do
  return (← naming.listIndices store).total (·.primaryDocs)

/-- The size of all indices of the deployment. -/
def totalBytes (naming : Naming) (store : Store) : Except Failure Nat := do
  return (← naming.listIndices store).total (·.sizeBytes)

/-- The size of all indices of the deployment in whole units of `1024 * 1024` bytes. -/
def totalMegabytes (naming : Naming) (store : Store) : Except Failure Nat := do
  return (← naming.totalBytes store) / (1024 * 1024)

/-- The statistics of the recent index, found by its name as a pattern. -/
def recentStats (naming : Naming) (store : Store) : Except Failure (Option IndexStats) := do
  return (← store.stats naming.recentIndex).get? naming.recentIndex

/-- The kind of storage that the recent index was created with. -/
def recentStoreType (naming : Naming) (store : Store) : Except Failure (Option String) := do
  match (← store.clusterState naming.recentIndex).get? naming.recentIndex with
  | some settings => return settings.storeType
  | none => throw (.indexNotFound naming.recentIndex)

end Naming

/-! ## Nodes in messages -/

/-- What stands for a node about which nothing can be found out. -/
def unknownNode : String := "UNKNOWN"

/-- Something about a node, for messages: nothing for an empty id, and `unknownNode`, with a line in
the log, if the store does not answer. -/
def describeNode (what : String) (part : NodeInfo → String) (id : String) :
    Action (Option String) :=
  if id = "" then return none
  else
    tryCatch
      (do return some (part (← Action.ask (·.nodeInfo id))))
      (fun e => do
        Action.log .error
          ("Could not read " ++ what ++ " of node <" ++ id ++ ">: " ++ e.message)
        return some unknownNode)

/-- The name of a node, for messages. -/
def nodeName (id : String) : Action (Option String) := describeNode "name" (·.name) id

/-- The host of a node, for messages. -/
def nodeHostname (id : String) : Action (Option String) := describeNode "hostname" (·.hostname) id

end RollingIndex
