import RollingIndex.Store.Bulk

/-!
# Operations on a store as data

Every operation that may change a store, with its arguments, is a value, so that a history of a
store is a list: `Store.run` performs one from an empty store. Failing operations are part of a
history.
-/

namespace RollingIndex

/-- An operation on a store, with its arguments. -/
inductive StoreOperation where
  /-- create an index -/
  | create (name : String) (settings : IndexSettings)
  /-- put the mapping of an index -/
  | putMapping (name : String) (mapping : Json)
  /-- delete an index -/
  | delete (name : String)
  /-- change the aliases -/
  | updateAliases (actions : List AliasAction)
  /-- write documents -/
  | bulk (request : BulkRequest)
  /-- delete documents by the value of a field -/
  | deleteByRange (names : List String) (field : String) (first last : Int)

/-- What an operation answers when it does not fail. -/
inductive StoreAnswer where
  /-- done -/
  | done
  /-- whether the store confirms the change -/
  | acknowledged (confirmed : Bool)
  /-- the outcome of every item -/
  | written (results : List ItemResult)
  /-- the number of documents deleted -/
  | removed (count : Nat)

namespace StoreOperation

/-- Perform an operation. -/
def perform : StoreOperation → Change StoreAnswer
  | create name settings => return .acknowledged (← Store.create name settings)
  | putMapping name mapping => return .acknowledged (← Store.putMapping name mapping)
  | delete name => do Store.delete name; return .done
  | updateAliases actions => return .acknowledged (← Store.updateAliases actions)
  | bulk request => return .written (← Store.bulk request)
  | deleteByRange names field first last =>
    return .removed (← Store.deleteByRange names field first last)

end StoreOperation

/-- One event in the history of a store. -/
inductive StoreEvent where
  /-- an operation is performed, with whatever outcome -/
  | operation (operation : StoreOperation)
  /-- a fault is switched -/
  | fault (switch : FaultSwitch)

namespace Store

/-- The store after one event. -/
def step (store : Store) : StoreEvent → Store
  | .operation operation => (Effect.on operation.perform store).2
  | .fault switch => store.switch switch

/-- The store after a history, from an empty one. -/
def run (history : List StoreEvent) : Store := history.foldl step {}

end Store

end RollingIndex
