import RollingIndex.Store.Operation
import RollingIndex.Proofs.BulkWrites

/-!
# All or nothing

A request to a store may have many parts: actions on aliases, indices to purge, documents to write.
Each operation makes all its checks before its first change, so what a request leaves behind can be
read off its outcome (`Store.perform_all_or_nothing`):

* **a request that fails leaves the store exactly as it was**, also if only its last part is at
  fault, and so does a mapping or a change of aliases that the store does not confirm;
* **a request that is answered is carried out in full** (`StoreRequest.carriedOut`). A creation is
  carried out even if the store does not confirm it, and a question has nothing to carry out.
-/

namespace RollingIndex

/-! ## Requests as data -/

/-- A question to a store, with its arguments. -/
inductive StoreQuestion where
  /-- whether there is an index -/
  | hasIndex (name : String)
  /-- the statistics of the indices that a pattern selects -/
  | stats (pattern : String)
  /-- the settings of the indices that a pattern selects -/
  | clusterState (pattern : String)
  /-- what an alias is bound to -/
  | aliasTargets (aliasName : String)
  /-- what is known of a node -/
  | nodeInfo (id : String)
  /-- the number of nodes -/
  | nodeCount

/-- What a question is answered with when it does not fail. -/
inductive StoreFinding where
  /-- whether it is so -/
  | flag (value : Bool)
  /-- statistics by index -/
  | stats (listed : Table IndexStats)
  /-- settings by index -/
  | settings (listed : Table IndexSettings)
  /-- names of indices -/
  | names (indices : List String)
  /-- a node -/
  | node (info : NodeInfo)
  /-- how many there are -/
  | count (number : Nat)

/-- Put a question to a store. -/
def StoreQuestion.ask (store : Store) : StoreQuestion → Except Failure StoreFinding
  | hasIndex name => return .flag (← store.hasIndex name)
  | stats pattern => return .stats (← store.stats pattern)
  | clusterState pattern => return .settings (← store.clusterState pattern)
  | aliasTargets aliasName => return .names (← store.aliasTargets aliasName)
  | nodeInfo id => return .node (← store.nodeInfo id)
  | nodeCount => return .count (← store.nodeCount)

/-- Whatever may be asked of a store. -/
inductive StoreRequest where
  /-- a question is put -/
  | ask (question : StoreQuestion)
  /-- an operation is performed -/
  | change (operation : StoreOperation)

/-- What a request is answered with when it does not fail. -/
inductive StoreReply where
  /-- the answer to a question -/
  | found (finding : StoreFinding)
  /-- the answer to an operation -/
  | answered (answer : StoreAnswer)

/-- Make a request. -/
def StoreRequest.perform : StoreRequest → Change StoreReply
  | ask question => do
    let store ← get
    return .found (← question.ask store)
  | change operation => return .answered (← operation.perform)

/-! ## What a request asks for -/

/-- Whether the operation waits for the store to confirm it and is not carried out else. -/
def StoreOperation.waits : StoreOperation → Bool
  | putMapping _ _ | updateAliases _ => true
  | create _ _ | delete _ | bulk _ | deleteByRange _ _ _ _ => false

/-- The store with an operation carried out in full. -/
def StoreOperation.carriedOut (store : Store) : StoreOperation → Store
  | create name settings => store.withIndex name settings
  | putMapping name mapping =>
    { store with
      indices := store.indices.modify name fun index => { index with mapping := some mapping } }
  | delete name => store.withoutIndex name
  | updateAliases actions => { store with aliases := store.aliases.apply actions }
  | bulk request => store.afterBulk request
  | deleteByRange names field first last =>
    { store with indices := store.afterPurge names field first last }

/-- Whether the request waits for the store to confirm it and is not carried out else. -/
def StoreRequest.waits : StoreRequest → Bool
  | ask _ => false
  | change operation => operation.waits

/-- The store with a request carried out in full. -/
def StoreRequest.carriedOut (store : Store) : StoreRequest → Store
  | ask _ => store
  | change operation => operation.carriedOut store

namespace Store

/-! ## What a request leaves behind -/

/-- An operation fails, is not confirmed, or is carried out in full; the first two leave the store
as it was. -/
theorem perform_cases (operation : StoreOperation) (store : Store) :
    (∃ e, Effect.on operation.perform store = (.error e, store)) ∨
      (operation.waits = true ∧
        Effect.on operation.perform store = (.ok (.acknowledged false), store)) ∨
      ∃ answer, (operation.waits = true → answer ≠ .acknowledged false) ∧
        Effect.on operation.perform store = (.ok answer, operation.carriedOut store) := by
  cases operation with
  | create name settings =>
    rw [StoreOperation.perform, Effect.on_bind_pure]
    rcases create_cases name settings store with ⟨e, h⟩ | ⟨-, -, h⟩
    · rw [h]
      exact .inl ⟨e, rfl⟩
    · rw [h]
      exact .inr (.inr ⟨_, nofun, rfl⟩)
  | putMapping name mapping =>
    rw [StoreOperation.perform, Effect.on_bind_pure, on_putMapping]
    split
    · exact .inl ⟨_, rfl⟩
    · split
      · split
        · exact .inr (.inr ⟨.acknowledged true, nofun, rfl⟩)
        · exact .inr (.inl ⟨rfl, rfl⟩)
      · exact .inl ⟨_, rfl⟩
  | delete name =>
    rw [StoreOperation.perform, Effect.on_bind_pure (f := fun _ => StoreAnswer.done)]
    rcases delete_cases name store with ⟨e, h⟩ | ⟨-, h⟩
    · rw [h]
      exact .inl ⟨e, rfl⟩
    · rw [h]
      exact .inr (.inr ⟨.done, nofun, rfl⟩)
  | updateAliases actions =>
    rw [StoreOperation.perform, Effect.on_bind_pure]
    rcases updateAliases_cases actions store with ⟨e, h⟩ | h | ⟨-, h⟩
    · rw [h]
      exact .inl ⟨e, rfl⟩
    · rw [h]
      exact .inr (.inl ⟨rfl, rfl⟩)
    · rw [h]
      exact .inr (.inr ⟨.acknowledged true, nofun, rfl⟩)
  | bulk request =>
    rw [StoreOperation.perform, Effect.on_bind_pure]
    rcases bulk_cases request store with ⟨e, h⟩ | h
    · rw [h]
      exact .inl ⟨e, rfl⟩
    · rw [h]
      exact .inr (.inr ⟨_, nofun, rfl⟩)
  | deleteByRange names field first last =>
    rw [StoreOperation.perform, Effect.on_bind_pure]
    rcases deleteByRange_cases names field first last store with ⟨e, h⟩ | ⟨removed, h⟩
    · rw [h]
      exact .inl ⟨e, rfl⟩
    · rw [h]
      exact .inr (.inr ⟨_, nofun, rfl⟩)

/-- A question changes nothing, whether it is answered or not. -/
theorem on_ask (question : StoreQuestion) (store : Store) :
    Effect.on (StoreRequest.ask question).perform store =
      ((question.ask store).map .found, store) := by
  simp only [StoreRequest.perform, Effect.on_bind, Effect.on_get, Effect.on_lift, Effect.on_pure]
  cases question.ask store <;> rfl

/-- **Every request is carried out in full or not at all**, in any state of a store and under any
faults. A request that fails leaves everything as it was: indices with their settings, mappings,
creation orders and documents, aliases, the next creation order, nodes and the trace of bulk
requests. So does a mapping or a change of aliases that is not confirmed. Every other request is
carried out in all its parts. -/
theorem perform_all_or_nothing (store : Store) (request : StoreRequest) :
    (∀ e, (Effect.on request.perform store).1 = .error e →
      (Effect.on request.perform store).2 = store) ∧
    (request.waits = true →
      (Effect.on request.perform store).1 = .ok (.answered (.acknowledged false)) →
        (Effect.on request.perform store).2 = store) ∧
    (∀ reply, (Effect.on request.perform store).1 = .ok reply →
      (request.waits = true → reply ≠ .answered (.acknowledged false)) →
        (Effect.on request.perform store).2 = request.carriedOut store) := by
  cases request with
  | ask question =>
    rw [on_ask]
    exact ⟨fun _ _ => rfl, fun _ _ => rfl, fun _ _ _ => rfl⟩
  | change operation =>
    rw [StoreRequest.perform, Effect.on_bind_pure]
    rcases perform_cases operation store with ⟨e, h⟩ | ⟨hwaits, h⟩ | ⟨answer, hanswer, h⟩
    · rw [h]
      exact ⟨fun _ _ => rfl, fun _ _ => rfl, nofun⟩
    · rw [h]
      refine ⟨nofun, fun _ _ => rfl, fun reply hreply hne => ?_⟩
      cases hreply
      exact absurd rfl (hne hwaits)
    · rw [h]
      refine ⟨nofun, fun hwaits hreply => ?_, fun _ _ _ => rfl⟩
      cases hreply
      exact absurd rfl (hanswer hwaits)

/-- A change of aliases whose last action asks for an index that does not exist binds nothing,
though its first action could be carried out. -/
theorem perform_all_or_nothing_last_action :
    (Effect.on (StoreRequest.change (.updateAliases [.add "a" "x", .add "b" "x"])).perform
      (run [.operation (.create "a" { shards := 1, replicas := 0 })])).1 =
        .error (.indexNotFound "b") ∧
    (Effect.on (StoreRequest.change (.updateAliases [.add "a" "x", .add "b" "x"])).perform
      (run [.operation (.create "a" { shards := 1, replicas := 0 })])).2 =
        run [.operation (.create "a" { shards := 1, replicas := 0 })] :=
  ⟨rfl, (perform_all_or_nothing _ _).1 (.indexNotFound "b") rfl⟩

end Store

end RollingIndex
