import RollingIndex.Store.Change

/-!
# Bulk requests

A bulk request writes a list of documents, each to an index or to an alias that is bound to one
index. The request as a whole fails if the store cannot be reached or is told to fail it; otherwise
every item has its own outcome, and an item that fails does not hold up the others.

All items are resolved with the aliases as they were before the request. Documents whose lifetime is
over are dropped from the indices written to after the last item.
-/

namespace RollingIndex

/-- One document to be written. -/
structure BulkItem where
  /-- the index or alias to write to -/
  index : String
  /-- the id, under which a document may already be there -/
  id : String
  /-- the content -/
  source : Json
  /-- the lifetime in minutes, if it is limited -/
  ttlMinutes : Option Nat := none

/-- Documents to be written together. -/
structure BulkRequest where
  /-- the documents in order -/
  items : List BulkItem := []
  /-- how many copies must have applied a write -/
  consistency : Consistency := .quorum
  /-- whether writes wait for the copies -/
  replication : Replication := .sync

/-- Why one item was not written. -/
inductive ItemFailure where
  /-- the alias is bound to no index -/
  | noWriteIndex (aliasName : String)
  /-- the alias is bound to several indices -/
  | severalIndices (aliasName : String)
  /-- the store refuses the document -/
  | rejected
  /-- there is no index of that name -/
  | missingIndex (index : String)
deriving DecidableEq, Repr

/-- The wording of an item's failure. -/
def ItemFailure.message : ItemFailure → String
  | noWriteIndex aliasName => "alias <" ++ aliasName ++ "> has no write index"
  | severalIndices aliasName => "alias <" ++ aliasName ++ "> points to more than one index"
  | rejected => "rejected by store"
  | missingIndex index => "index <" ++ index ++ "> not found"

/-- The outcome of one item. -/
structure ItemResult where
  /-- the index that the name in the request led to; that name itself if it led to none -/
  index : String
  /-- the id of the document -/
  id : String
  /-- why it was not written, if it was not -/
  failure : Option ItemFailure
deriving DecidableEq, Repr

/-- Whether one of the items was not written. -/
def ItemResult.anyFailed (results : List ItemResult) : Bool :=
  results.any fun result => result.failure.isSome

namespace AliasTable

/-- The index that a name in a request leads to: that of an alias bound to one index, and for a name
that is no alias the name itself. -/
def writeTarget (aliases : AliasTable) (name : String) : Except ItemFailure String :=
  match aliases.get? name with
  | none => .ok name
  | some bound =>
    match bound.keys with
    | [only] => .ok only
    | [] => .error (.noWriteIndex name)
    | _ => .error (.severalIndices name)

end AliasTable

namespace Store

/-- The outcome of one item and the indices after it. -/
def writeItem (aliases : AliasTable) (faults : Faults) (indices : Table Index) (item : BulkItem) :
    ItemResult × Table Index :=
  match aliases.writeTarget item.index with
  | .error failure => ({ index := item.index, id := item.id, failure := some failure }, indices)
  | .ok target =>
    if faults.rejectedDocuments.contains (item.index, item.id) then
      ({ index := target, id := item.id, failure := some .rejected }, indices)
    else
      match indices.get? target with
      | none =>
        ({ index := target, id := item.id, failure := some (.missingIndex target) }, indices)
      | some index =>
        let document : Document := { source := item.source, ttlMinutes := item.ttlMinutes }
        ({ index := target, id := item.id, failure := none },
          indices.insert target { index with documents := index.documents.insert item.id document })

/-- The outcomes of items in order and the indices after all of them. -/
def writeItems (aliases : AliasTable) (faults : Faults) :
    Table Index → List BulkItem → List ItemResult × Table Index
  | indices, [] => ([], indices)
  | indices, item :: rest =>
    let (result, indices) := writeItem aliases faults indices item
    let (results, indices) := writeItems aliases faults indices rest
    (result :: results, indices)

/-- Drop the documents whose lifetime is over from the indices that were written to. -/
def reclaim (results : List ItemResult) (indices : Table Index) : Table Index :=
  results.foldl (fun indices result =>
    if result.failure.isNone then
      indices.modify result.index fun index => { index with documents := index.visible }
    else indices) indices

/-- Remember one more bulk request; of more than can be kept the oldest is forgotten. -/
def record (trace : List BulkTrace) (entry : BulkTrace) : List BulkTrace :=
  let trace := trace ++ [entry]
  trace.drop (trace.length - BulkTrace.capacity)

/-- Write the items of a request and answer the outcome of each. -/
def bulk (request : BulkRequest) : Change (List ItemResult) := do
  let store ← get
  store.available
  match request.items.find? fun item => store.faults.failingBulks.contains item.index with
  | some item => throw (.storeUnavailable ("bulk to <" ++ item.index ++ "> timed out"))
  | none =>
    let (results, indices) := writeItems store.aliases store.faults store.indices request.items
    set { store with
      indices := reclaim results indices
      trace := record store.trace
        { items := request.items.length, consistency := request.consistency,
          replication := request.replication } }
    return results

end Store

end RollingIndex
