import RollingIndex.Effect
import RollingIndex.Store.Basic

/-!
# Changes of the store

A `Change` is an operation that may change the store and that ends with a value or a failure. What
was changed before a failure stays changed: that a failing operation changes nothing is a property
of each operation below, for all of them ask before they act.
-/

namespace RollingIndex

/-- An operation on a store. -/
abbrev Change (α : Type) := Effect Store α

namespace Store

/-! ## Indices -/

/-- Create an index under a name that neither an index nor an alias has, and answer whether the
store confirms it. The index exists even if the store does not. -/
def create (name : String) (settings : IndexSettings) : Change Bool := do
  let store ← get
  store.available
  if store.indices.contains name || store.aliases.contains name then
    throw (.indexAlreadyExists name)
  else
    set { store with
      indices := store.indices.insert name { settings, creationOrder := store.nextOrder }
      nextOrder := store.nextOrder + 1 }
    return store.faults.acknowledgesCreates

/-- Put the mapping of an index and answer whether the store confirms it. The mapping is not put if
the store does not. -/
def putMapping (name : String) (mapping : Json) : Change Bool := do
  let store ← get
  store.available
  if store.indices.contains name then
    if store.faults.acknowledgesMappings then
      set { store with
        indices := store.indices.modify name fun index => { index with mapping := some mapping } }
      return true
    else return false
  else throw (.indexNotFound name)

/-- Delete an index together with its documents and all bindings of aliases to it. -/
def delete (name : String) : Change Unit := do
  let store ← get
  store.available
  if store.faults.failingDeletes.contains name then
    throw (.storeUnavailable ("delete of <" ++ name ++ "> timed out"))
  else if store.indices.contains name then
    set { store with
      indices := store.indices.erase name
      aliases := store.aliases.withoutIndex name }
  else throw (.indexNotFound name)

/-! ## Aliases -/

/-- Apply a list of actions to the aliases as one change and answer whether the store confirms it.
Every index that an action binds to has to exist; nothing is applied if the store does not
confirm. -/
def updateAliases (actions : List AliasAction) : Change Bool := do
  let store ← get
  store.available
  match (actions.filterMap AliasAction.added?).find? fun index => !store.indices.contains index with
  | some missing => throw (.indexNotFound missing)
  | none =>
    if store.faults.acknowledgesAliases then
      set { store with aliases := store.aliases.apply actions }
      return true
    else return false

/-! ## Deleting documents by the value of a field -/

/-- Delete the documents of one index that lie in a range; `removed` counts the documents
deleted. -/
def purgeIndex (field : String) (first last : Int) (state : Nat × Table Index) (name : String) :
    Nat × Table Index :=
  let (removed, indices) := state
  match indices.get? name with
  | none => state
  | some index =>
    let kept := index.documents.filter fun _ document => !document.inRange field first last
    (removed + (index.documents.size - kept.size),
      indices.insert name { index with documents := kept })

/-- Delete the documents of the named indices whose field is an integer between two bounds, and
answer how many there were. Every index named has to exist. -/
def deleteByRange (names : List String) (field : String) (first last : Int) : Change Nat := do
  let store ← get
  store.available
  match names.find? fun name => !store.indices.contains name with
  | some missing => throw (.indexNotFound missing)
  | none =>
    let (removed, indices) := names.foldl (purgeIndex field first last) (0, store.indices)
    set { store with indices := indices }
    return removed

end Store

end RollingIndex
