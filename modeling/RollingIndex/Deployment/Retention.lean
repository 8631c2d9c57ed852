import RollingIndex.Deployment.Rotation

/-!
# Retention

A deployment keeps a limited number of rotated indices. A sweep picks as many of the oldest as there
are too many and deletes them one by one. The index that the alias leads to is never deleted: if it
is among those picked it is skipped, and no other is picked in its place. An index that cannot be
deleted does not hold up the others.
-/

namespace RollingIndex

/-! ## The oldest indices -/

/-- Whether an index is at least as old as another; of two with one creation order the name
decides. -/
def IndexStats.atLeastAsOld (a b : IndexStats) : Bool :=
  if a.creationOrder = b.creationOrder then a.name ≤ b.name else a.creationOrder < b.creationOrder

/-- Indices from the oldest to the newest. -/
def byAge (indices : List IndexStats) : List IndexStats := indices.mergeSort IndexStats.atLeastAsOld

/-- The names of the oldest indices, at most a given number of them. -/
def oldestIndices (indices : List IndexStats) (count : Nat) : List String :=
  ((byAge indices).take count).map (·.name)

/-! ## Sweeping -/

/-- What a sweep did. -/
structure SweepReport where
  /-- number of rotated indices before the sweep -/
  indexCount : Nat
  /-- number of rotated indices to keep -/
  maxIndices : Nat
  /-- the indices deleted, in order -/
  deleted : List String := []
  /-- the indices picked but skipped, for the alias leads to them -/
  skipped : List String := []
  /-- the indices that could not be deleted, in order -/
  failed : List String := []
deriving DecidableEq, Repr

/-- Whether there were too many indices before the sweep. -/
def SweepReport.exceeded (report : SweepReport) : Bool := report.maxIndices < report.indexCount

/-- The part of a deployment that sweeps, in its record. -/
def sweepSource : String := "retention"

namespace Deployment

/-- Enter something a sweep does into log and record. -/
def noteSweep (deployment : Deployment) (level : LogLevel) (message : String) : Action Unit := do
  Action.log level message
  Action.record deployment { source := sweepSource, message }

/-- What log and record say before an index is deleted. -/
def deletingMessage (name : String) : String :=
  "Retention cleaning: Deleting index <" ++ name ++ ">"

/-- What log and record say of an index that could not be deleted. -/
def deleteFailedMessage (name : String) (e : Failure) : String :=
  "Retention cleaning: Failed to delete index <" ++ name ++ ">: " ++ e.message

/-- Deal with one of the indices picked. -/
def sweepIndex (deployment : Deployment) (current : String) (report : SweepReport) (name : String) :
    Action SweepReport := do
  if name = current then
    Action.log .info ("Not deleting current deflector target <" ++ name ++ ">.")
    return { report with skipped := report.skipped ++ [name] }
  else
    deployment.noteSweep .info (deletingMessage name)
    tryCatch
      (do
        Action.onStore (Store.delete name)
        Action.removeRange name
        return { report with deleted := report.deleted ++ [name] })
      (fun e => do
        deployment.noteSweep .error (deleteFailedMessage name e)
        return { report with failed := report.failed ++ [name] })

/-- Delete the oldest rotated indices beyond the number to keep. Nothing is swept before the alias
was bound for the first time. -/
def sweep (deployment : Deployment) : Action SweepReport := do
  let current ← Action.ask deployment.currentIndex
  let indices ← Action.ask deployment.naming.rotatedIndices
  let count := indices.size
  let limit := deployment.maxIndices
  let report : SweepReport := { indexCount := count, maxIndices := limit }
  if count ≤ limit then
    Action.log .debug
      ("Number of indices (" ++ toString count ++ ") lower than limit (" ++ toString limit ++
        "). Not performing any retention actions.")
    return report
  else
    deployment.noteSweep .info
      ("Number of indices (" ++ toString count ++ ") higher than limit (" ++ toString limit ++
        "). Deleting " ++ toString (count - limit) ++ " indices.")
    (oldestIndices indices.values (count - limit)).foldlM (deployment.sweepIndex current) report

/-- One round of the sweep that runs at regular intervals: its outcome is logged and no failure
leaves it. -/
def sweepRound (deployment : Deployment) : Action Unit :=
  tryCatch
    (do
      let report ← deployment.sweep
      if report.exceeded then
        Action.log .info
          ("Retention sweep done: deleted=" ++ Text.quotedList report.deleted ++ " skipped=" ++
            Text.quotedList report.skipped ++ " failed=" ++ Text.quotedList report.failed))
    (fun e =>
      if e.isTransient then
        Action.log .warn ("Retention sweep skipped, store unreachable: " ++ e.message)
      else Action.log .error ("Retention sweep failed: " ++ e.message))

end Deployment

end RollingIndex
