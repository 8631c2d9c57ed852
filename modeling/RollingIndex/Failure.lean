import RollingIndex.Text.Quoted

/-!
# Failures

Every operation on a store or a deployment ends with a value or with a `Failure`, which names the
cause and the thing concerned. `Failure.message` is the wording.
-/

namespace RollingIndex

/-- Why an operation failed. -/
inductive Failure where
  /-- the store cannot be reached -/
  | storeUnavailable (reason : String)
  /-- there is no index of that name -/
  | indexNotFound (index : String)
  /-- the name is taken -/
  | indexAlreadyExists (index : String)
  /-- the alias is bound to no index -/
  | noCurrentTarget (aliasName : String)
  /-- the alias is bound to several indices -/
  | ambiguousAlias (aliasName : String) (targets : List String)
  /-- the store did not confirm a change -/
  | notAcknowledged (operation index : String)
  /-- the recent index was configured with a store type that is not offered -/
  | invalidStoreType (given allowed : String)
  /-- there is no node with that id -/
  | nodeNotFound (node : String)
deriving DecidableEq, Repr

namespace Failure

/-- The wording of a failure. -/
def message : Failure → String
  | storeUnavailable reason => "index store unavailable: " ++ reason
  | indexNotFound index => "index <" ++ index ++ "> not found"
  | indexAlreadyExists index => "index <" ++ index ++ "> already exists"
  | noCurrentTarget aliasName => "deflector alias <" ++ aliasName ++ "> has no current target"
  | ambiguousAlias aliasName targets =>
    "alias <" ++ aliasName ++ "> is bound to more than one index: " ++ Text.quotedList targets
  | notAcknowledged operation index =>
    operation ++ " on <" ++ index ++ "> was not acknowledged by the store"
  | invalidStoreType given allowed =>
    "invalid recent index store type <" ++ given ++ ">, allowed: " ++ allowed
  | nodeNotFound node => "node <" ++ node ++ "> not found"

/-- Whether the next attempt may succeed without anybody doing anything. -/
def isTransient : Failure → Bool
  | storeUnavailable _ => true
  | _ => false

end Failure

end RollingIndex
