import RollingIndex.Deployment.Catalog

/-!
# Writing and purging messages

A batch of records goes to two places in two bulk requests: to the alias of the deployment, without
a limit of lifetime, and to the recent index. Both requests are always made; if one fails as a whole
the other counts all the same, and of two failures the first is reported.

A purge deletes the messages of the rotated indices up to a time.
-/

namespace RollingIndex

/-- A message to be written, with the id it has in both places. -/
structure Record where
  /-- the id -/
  id : String
  /-- the content -/
  body : Json

/-- The field that holds the time of a message, in seconds. -/
def createdAtField : String := "created_at"

namespace Deployment

/-! ## Writing -/

/-- The request that writes records to one place. -/
def batchRequest (index : String) (ttl : Option Nat) (records : List Record) : BulkRequest where
  items := records.map fun record =>
    { index, id := record.id, source := record.body, ttlMinutes := ttl }
  consistency := .one
  replication := .async

/-- The request that writes records to the alias. -/
def mainRequest (deployment : Deployment) (records : List Record) : BulkRequest :=
  batchRequest deployment.naming.writeAlias none records

/-- The request that writes records to the recent index. -/
def recentRequest (deployment : Deployment) (records : List Record) : BulkRequest :=
  batchRequest deployment.naming.recentIndex deployment.recentTtl records

/-- The line about a request as a whole. -/
def bulkLine (place : String) (results : List ItemResult) : LogLine where
  level := .debug
  text :=
    place ++ ": Bulk indexed " ++ toString results.length ++ " messages, took _ ms, failures: " ++
      toString (ItemResult.anyFailed results)

/-- The line about an item that was not written. -/
def itemLine? (place : String) (result : ItemResult) : Option LogLine :=
  result.failure.map fun failure =>
    { level := .warn
      text :=
        place ++ ": document <" ++ result.id ++ "> in <" ++ result.index ++ "> failed: " ++
          failure.message }

/-- Log the outcome of a request: how many items there were, and each that was not written. -/
def logBulk (place : String) (results : List ItemResult) : Action Unit :=
  Action.logLines (bulkLine place results :: results.filterMap (itemLine? place))

/-- How the log calls the request to the alias. -/
def mainPlace : String := "Deflector index"

/-- How the log calls the request to the recent index. -/
def recentPlace : String := "Recent index"

/-- The outcome of an action as a value. -/
def outcomeOf {α : Type} (action : Action α) : Action (Except Failure α) :=
  tryCatch (do return .ok (← action)) (fun e => return .error e)

@[simp] theorem on_outcomeOf {α : Type} (action : Action α) (desk : Desk) :
    Effect.on (outcomeOf action) desk =
      (.ok (Effect.on action desk).1, (Effect.on action desk).2) := by
  simp only [outcomeOf, Effect.on_tryCatch, Effect.on_bind, Effect.on_pure]
  rcases Effect.on action desk with ⟨_ | _, after⟩ <;> rfl

/-- Write a batch to both places and answer whether every item was written. -/
def writeBatch (deployment : Deployment) (records : List Record) : Action Bool := do
  if records.isEmpty then return true
  else
    let main ← outcomeOf (Action.onStore (Store.bulk (deployment.mainRequest records)))
    let recent ← outcomeOf (Action.onStore (Store.bulk (deployment.recentRequest records)))
    match main, recent with
    | .ok main, .ok recent =>
      logBulk mainPlace main
      logBulk recentPlace recent
      return !ItemResult.anyFailed main && !ItemResult.anyFailed recent
    | .error e, .ok recent =>
      logBulk recentPlace recent
      throw e
    | .ok main, .error e =>
      logBulk mainPlace main
      throw e
    | .error e, .error _ => throw e

/-! ## Purging -/

/-- Delete the messages of the rotated indices from time zero up to a time, which counts in, and
answer how many there were. -/
def purge (deployment : Deployment) (upTo : Int) : Action Nat := do
  let names ← Action.ask deployment.naming.rotatedNames
  if names.isEmpty then return 0
  else
    let removed ← Action.onStore (Store.deleteByRange names createdAtField 0 upTo)
    Action.log .info
      ("Deleted " ++ toString removed ++ " messages with " ++ createdAtField ++ " <= " ++
        toString upTo ++ " from " ++ toString names.length ++ " indices")
    return removed

end Deployment

end RollingIndex
