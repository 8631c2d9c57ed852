import RollingIndex.Deployment.Catalog

/-!
# Rotation

Writers address the alias of a deployment, which is bound to the newest rotated index. To rotate is
to create the index with the next number and then to move the alias to it in one request. A step
that the store does not confirm ends the rotation; what was done before stays.

The recent index has a fixed name and is created once.
-/

namespace RollingIndex

/-- What an alias leads to. -/
inductive Target where
  /-- it is bound to no index -/
  | unbound
  /-- it is bound to one index -/
  | bound (index : String)
deriving DecidableEq, Repr

/-- The index that an alias leads to, if there is one. -/
def Target.index? : Target → Option String
  | unbound => none
  | bound index => some index

/-- What an alias leads to; an alias bound to several indices is a failure. -/
def Store.currentTarget (store : Store) (aliasName : String) : Except Failure Target := do
  match ← store.aliasTargets aliasName with
  | [] => return .unbound
  | [index] => return .bound index
  | targets => throw (.ambiguousAlias aliasName targets)

/-- The part of a deployment that rotates, in its record. -/
def rotationSource : String := "deflector"

namespace Deployment

/-- The index that the alias of the deployment leads to. -/
def currentIndex (deployment : Deployment) (store : Store) : Except Failure String := do
  match ← store.currentTarget deployment.naming.writeAlias with
  | .bound index => return index
  | .unbound => throw (.noCurrentTarget deployment.naming.writeAlias)

/-! ## Creating indices -/

/-- Create an index and put the mapping. If the mapping is not confirmed the index stays. -/
def createWithMapping (deployment : Deployment) (name : String) (settings : IndexSettings) :
    Action Unit := do
  let created ← Action.onStore (Store.create name settings)
  if created then
    let mapped ← Action.onStore (Store.putMapping name deployment.mapping)
    if mapped then
      Action.log .info
        ("Created index <" ++ name ++ "> (shards=" ++ toString settings.shards ++ ", replicas=" ++
          toString settings.replicas ++ ", store_type=" ++
          Text.quotedOption settings.storeType ++ ")")
    else
      Action.log .error
        ("Mapping for index <" ++ name ++
          "> was not acknowledged, index left in place for manual cleanup")
      throw (.notAcknowledged "put_mapping" name)
  else
    Action.log .error ("Creation of index <" ++ name ++ "> was not acknowledged")
    throw (.notAcknowledged "create_index" name)

/-- Create an index of the given extent. -/
def createIndex (deployment : Deployment) (name : String) (shards replicas : Nat) : Action Unit :=
  deployment.createWithMapping name { shards, replicas }

/-- Create the recent index. -/
def createRecentIndex (deployment : Deployment) : Action Unit := do
  checkStoreType deployment.recentStoreType
  deployment.createWithMapping deployment.naming.recentIndex
    { shards := deployment.shards, replicas := deployment.replicas,
      storeType := some deployment.recentStoreType }

/-- Create the recent index unless it exists, and answer whether it was created. -/
def ensureRecentIndex (deployment : Deployment) : Action Bool := do
  let found ← Action.ask (·.hasIndex deployment.naming.recentIndex)
  if found then return false
  else
    Action.log .info
      ("Recent index <" ++ deployment.naming.recentIndex ++ "> does not exist, creating it")
    deployment.createRecentIndex
    return true

/-! ## Moving the alias -/

/-- The actions that move an alias. -/
def cutoverActions (aliasName new : String) : Option String → List AliasAction
  | some old => [.remove old aliasName, .add new aliasName]
  | none => [.add new aliasName]

/-- Move an alias from an old index, if one is given, to a new one in a single request. -/
def cutover (aliasName new : String) (old : Option String) : Action Unit := do
  let confirmed ← Action.onStore (Store.updateAliases (cutoverActions aliasName new old))
  if confirmed then
    Action.log .info
      ("Pointed alias <" ++ aliasName ++ "> to <" ++ new ++ "> (was: " ++
        Text.quotedOption old ++ ")")
  else
    Action.log .error
      ("Alias update <" ++ aliasName ++ "> -> <" ++ new ++ "> (old: " ++ Text.quotedOption old ++
        ") was not acknowledged")
    throw (.notAcknowledged "update_aliases" new)

/-! ## Rotating -/

/-- What the record says of a rotation. -/
def rotationMessage (old : Option String) (new : String) : String :=
  match old with
  | some old => "Cycled deflector from <" ++ old ++ "> to <" ++ new ++ ">"
  | none => "Initialized deflector with first target <" ++ new ++ ">"

/-- Create the next index and move the alias to it. -/
def rotate (deployment : Deployment) : Action String := do
  let aliasName := deployment.naming.writeAlias
  let old ← Action.ask (·.currentTarget aliasName)
  let names ← Action.ask deployment.naming.rotatedNames
  let new := deployment.naming.nextName names
  Action.log .info
    ("Cycling deflector <" ++ aliasName ++ "> from " ++ Text.quotedOption old.index? ++ " to <" ++
      new ++ ">")
  deployment.createIndex new deployment.shards deployment.replicas
  cutover aliasName new old.index?
  Action.record deployment { source := rotationSource, message := rotationMessage old.index? new }
  return new

/-- What log and record say of a rotation that failed. -/
def rotationFailure (deployment : Deployment) (e : Failure) : String :=
  "Cycling deflector <" ++ deployment.naming.writeAlias ++ "> failed: " ++ e.message

/-- Rotate, and enter a failure into log and record. Answers the name of the new index. -/
def cycle (deployment : Deployment) : Action String :=
  tryCatch deployment.rotate fun e => do
    Action.log .error (deployment.rotationFailure e)
    Action.record deployment { source := rotationSource, message := deployment.rotationFailure e }
    throw e

/-- Rotate if the alias is not bound yet. Answers the index that it leads to. -/
def setup (deployment : Deployment) : Action String := do
  let aliasName := deployment.naming.writeAlias
  match ← Action.ask (·.currentTarget aliasName) with
  | .bound index =>
    Action.log .info ("Deflector <" ++ aliasName ++ "> points to <" ++ index ++ ">")
    return index
  | .unbound =>
    Action.log .info ("Deflector <" ++ aliasName ++ "> is not bound yet, cycling")
    deployment.cycle

end Deployment

end RollingIndex
