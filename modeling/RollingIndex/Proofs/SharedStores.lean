import RollingIndex.Proofs.Consistency
import RollingIndex.Proofs.Runs

/-!
# The store that deployments share

Whatever a deployment does to a store is made of operations on it, so the parts of a store that
deployments share fit together (`Store.Consistent`) after every run:

* **every operation of a deployment keeps a store consistent** (`Store.Consistent.transition`);
* **the store of a cluster is consistent after every run** (`Cluster.consistent_store_run`), and so
  is every store that can be reached at all (`Store.Reachable.consistent`), whether deployments work
  on it or somebody performs operations on it directly.
-/

namespace RollingIndex

variable {store after : Store} {d : Deployment} {operation : Operation}
  {result : Except Failure Answer}

namespace Store.Consistent

theorem bulk (h : store.Consistent) (request : BulkRequest) :
    (Effect.on (Store.bulk request) store).2.Consistent := by
  rcases bulk_cases request store with ⟨e, hfailed⟩ | hwritten
  · rw [hfailed]
    exact h
  · rw [hwritten]
    refine h.of_indices (get?_afterItems store request.items) fun name index => ?_
    dsimp only
    split <;> rfl

theorem withoutIndices (h : store.Consistent) (names : List String) :
    (store.withoutIndices names).Consistent := by
  induction names generalizing store with
  | nil => exact h
  | cons name names ih => exact ih h.withoutIndex

/-- An alias may be moved to any index that exists. -/
theorem cutover (h : store.Consistent) (aliasName : String) {new : String} (old : Option String)
    (hexists : store.indices.contains new = true) :
    Consistent { store with
      aliases := store.aliases.apply (Deployment.cutoverActions aliasName new old) } := by
  refine h.realias fun index other hadd => ?_
  have hnew : index = new ∧ other = aliasName := by
    cases old <;> simpa [Deployment.cutoverActions] using hadd
  rw [hnew.1]
  exact hexists

/-- **Every operation of a deployment keeps a store consistent**, whether it succeeds or fails. -/
theorem transition (h : store.Consistent)
    (htransition : d.Transition store operation result after) : after.Consistent := by
  cases htransition with
  | kept => exact h
  | rotated _ result _ _ hrotation =>
    cases hrotation with
    | refused => exact h
    | stranded => exact h.withIndex
    | moved old names =>
      exact h.withIndex.cutover d.naming.writeAlias old.index?
        (store.contains_withIndex_self _ _ _)
  | created => exact h.withIndex
  | wrote records => exact (h.bulk (d.mainRequest records)).bulk (d.recentRequest records)
  | purged upTo names =>
    refine h.of_indices (get?_afterPurge store names createdAtField 0 upTo) fun name index => ?_
    split <;> rfl
  | swept report => exact h.withoutIndices report.deleted

end Store.Consistent

namespace Store

/-- A store can be reached from an empty one: operations are performed on it, faults are switched,
nodes are added and deployments work on it, in any order. -/
inductive Reachable : Store → Prop where
  /-- there is nothing in it -/
  | empty : Reachable {}
  /-- an operation is performed on it, or a fault is switched -/
  | step {store : Store} (event : StoreEvent) : Reachable store → Reachable (store.step event)
  /-- a node is added -/
  | addNode {store : Store} (id : String) (node : NodeInfo) :
      Reachable store → Reachable (store.addNode id node)
  /-- a deployment performs an operation -/
  | perform {desk : Desk} (d : Deployment) (operation : Operation) :
      Reachable desk.store → Reachable (Effect.on (d.perform operation) desk).2.store

theorem Reachable.run (history : List StoreEvent) : (Store.run history).Reachable := by
  suffices h : ∀ (history : List StoreEvent) (store : Store), store.Reachable →
      (history.foldl Store.step store).Reachable from h history {} .empty
  intro history
  induction history with
  | nil => exact fun _ h => h
  | cons event history ih => exact fun store h => ih _ (h.step event)

/-- **The parts of a store that can be reached fit together.** -/
theorem Reachable.consistent (h : store.Reachable) : store.Consistent := by
  induction h with
  | empty => exact consistent_empty
  | step event _ ih => exact ih.step event
  | addNode id node _ ih => exact ⟨ih.bound, ih.exists_target, ih.order_lt, ih.order_inj⟩
  | perform d operation _ ih => exact ih.transition (d.perform_transition operation _)

end Store

namespace Cluster

theorem consistent_store_step {cluster : Cluster} (h : cluster.store.Consistent) (event : Event) :
    (cluster.step event).store.Consistent := by
  have hstep := cluster.step_store event
  generalize (cluster.step event).store = after at hstep
  cases hstep with
  | switched fault => exact ⟨h.bound, h.exists_target, h.order_lt, h.order_inj⟩
  | absent => exact h
  | performed _ _ d _ _ _ _ htransition => exact h.transition htransition

/-- **The store of a cluster is consistent after every run.** -/
theorem consistent_store_run {cluster : Cluster} (h : cluster.store.Consistent)
    (events : List Event) : (cluster.run events).store.Consistent := by
  induction events generalizing cluster with
  | nil => exact h
  | cons event events ih => exact ih (consistent_store_step h event)

end Cluster

end RollingIndex
