import RollingIndex.Proofs.NameSpaces
import RollingIndex.Proofs.Transitions

/-!
# Runs of a cluster

An event of a cluster switches a fault or lets one deployment perform an operation, and its effect
on the store is a `Deployment.Transition` of that deployment (`Cluster.step_store`). The deployments
themselves are the same throughout a run. So a property of the store that all transitions and
switches keep is kept by every run, by induction on its events.

Some properties depend on the numbers that rotations give, which begin again at zero after the
greatest one of 64 bits. They are about the runs in which no rotation meets that number
(`Cluster.hasRoomThroughout`).
-/

namespace RollingIndex

/-- A deployment with given names and default settings otherwise. -/
def Deployment.named (stem recentIndex : String) : Deployment :=
  .ofConfig { indexer := { indexPrefix := stem, recentIndexName := recentIndex } } .null .ledger

namespace Cluster

variable {cluster : Cluster} {member : Nat} {m : Member}

/-! ## Deployments at work -/

/-- What a deployment works on when it acts. -/
def desk (cluster : Cluster) (m : Member) : Desk where
  store := cluster.store
  ledger := m.ledger

theorem act_of_member {α : Type} (h : cluster.members[member]? = some m)
    (action : Deployment → Action α) :
    cluster.act member action =
      (some
        { result := (Effect.on (action m.deployment) (cluster.desk m)).1
          log := (Effect.on (action m.deployment) (cluster.desk m)).2.log },
        { store := (Effect.on (action m.deployment) (cluster.desk m)).2.store
          members := cluster.members.set member
            { deployment := m.deployment
              ledger := (Effect.on (action m.deployment) (cluster.desk m)).2.ledger } }) := by
  rw [act, h]
  rfl

/-! ## The deployments of a run -/

/-- The deployments that share the store. -/
def deployments (cluster : Cluster) : List Deployment := cluster.members.map (·.deployment)

@[simp] theorem deployments_start (ds : List Deployment) : (start ds).deployments = ds := by
  simp [deployments, start, Function.comp_def]

/-- Behind a deployment is the member that acts for it. -/
theorem exists_member {d : Deployment} (h : cluster.deployments[member]? = some d) :
    ∃ m, cluster.members[member]? = some m ∧ m.deployment = d := by
  rwa [deployments, List.getElem?_map, Option.map_eq_some_iff] at h

/-- An action of one deployment replaces none of them. -/
theorem deployments_act {α : Type} (cluster : Cluster) (member : Nat)
    (action : Deployment → Action α) :
    (cluster.act member action).2.deployments = cluster.deployments := by
  cases hm : cluster.members[member]? with
  | none => rw [act, hm]
  | some m =>
    rw [act_of_member hm, deployments, deployments]
    apply List.ext_getElem?
    intro k
    by_cases hk : k = member
    · subst hk
      obtain ⟨hlt, rfl⟩ := List.getElem?_eq_some_iff.mp hm
      simp [hlt]
    · simp [List.getElem?_set_ne (Ne.symm hk)]

@[simp] theorem deployments_step (cluster : Cluster) (event : Event) :
    (cluster.step event).deployments = cluster.deployments := by
  cases event with
  | operation member operation => exact cluster.deployments_act member _
  | fault fault => rfl

@[simp] theorem deployments_run (cluster : Cluster) (events : List Event) :
    (cluster.run events).deployments = cluster.deployments := by
  induction events generalizing cluster with
  | nil => rfl
  | cons event events ih => exact (ih (cluster.step event)).trans (cluster.deployments_step event)

theorem run_append (cluster : Cluster) (before after : List Event) :
    cluster.run (before ++ after) = (cluster.run before).run after := List.foldl_append

/-! ## What an event does -/

/-- What a deployment answers when it performs an operation, if there is such a deployment. -/
def answer? (cluster : Cluster) (member : Nat) (operation : Operation) :
    Option (Except Failure Answer) :=
  (cluster.act member (·.perform operation)).1.map Outcome.result

theorem answer?_of_member (h : cluster.members[member]? = some m) (operation : Operation) :
    cluster.answer? member operation =
      some (Effect.on (m.deployment.perform operation) (cluster.desk m)).1 := by
  rw [answer?, act_of_member h]
  rfl

theorem store_step_of_member (h : cluster.members[member]? = some m) (operation : Operation) :
    (cluster.step (.operation member operation)).store =
      (Effect.on (m.deployment.perform operation) (cluster.desk m)).2.store := by
  rw [step, act_of_member h]

/-- What is answered is what the deployment answers at its desk. -/
theorem exists_member_of_answer? {d : Deployment} {operation : Operation}
    {result : Except Failure Answer} (hd : cluster.deployments[member]? = some d)
    (h : cluster.answer? member operation = some result) :
    ∃ m, cluster.members[member]? = some m ∧ m.deployment = d ∧
      (Effect.on (d.perform operation) (cluster.desk m)).1 = result := by
  obtain ⟨m, hm, rfl⟩ := exists_member hd
  rw [answer?_of_member hm] at h
  exact ⟨m, hm, rfl, Option.some.inj h⟩

/-- What an event does to the store: a fault is switched, nothing happens, or a deployment performs
an operation. -/
inductive StoreStep (cluster : Cluster) : Event → Store → Prop where
  /-- a fault is switched -/
  | switched (fault : FaultSwitch) : StoreStep cluster (.fault fault) (cluster.store.switch fault)
  /-- there is no such deployment -/
  | absent (member : Nat) (operation : Operation) : cluster.deployments[member]? = none →
      StoreStep cluster (.operation member operation) cluster.store
  /-- a deployment performs an operation -/
  | performed (member : Nat) (operation : Operation) (d : Deployment)
      (result : Except Failure Answer) (after : Store) :
      cluster.deployments[member]? = some d →
      cluster.answer? member operation = some result →
      d.Transition cluster.store operation result after →
      StoreStep cluster (.operation member operation) after

theorem step_store (cluster : Cluster) (event : Event) :
    cluster.StoreStep event (cluster.step event).store := by
  cases event with
  | fault fault => exact .switched fault
  | operation member operation =>
    cases hm : cluster.members[member]? with
    | none =>
      rw [step, act, hm]
      exact .absent member operation (by simp [deployments, hm])
    | some m =>
      refine .performed member operation m.deployment _ _ (by simp [deployments, hm])
        (answer?_of_member hm operation) ?_
      rw [store_step_of_member hm]
      exact m.deployment.perform_transition operation (cluster.desk m)

/-! ## Room for the next number -/

/-- Whether no index bears the greatest number of 64 bits if the event is a rotation. -/
def hasRoom (cluster : Cluster) : Event → Bool
  | .operation member operation =>
    match cluster.deployments[member]? with
    | some d => !d.rotates cluster.store operation ||
        cluster.store.indices.keys.all fun name =>
          d.naming.indexNumber? name != some (powerOfTwo 64 - 1)
    | none => true
  | .fault _ => true

/-- Whether there is room at each event of a run. -/
def hasRoomThroughout (cluster : Cluster) : List Event → Bool
  | [] => true
  | event :: events => cluster.hasRoom event && (cluster.step event).hasRoomThroughout events

/-- Where there is room in the store, there is room in the list of names that a rotation reads. -/
theorem hasRoom_rotatedNames {d : Deployment} {operation : Operation} {names : List String}
    (h : cluster.hasRoom (.operation member operation) = true)
    (hd : cluster.deployments[member]? = some d)
    (hrotates : d.rotates cluster.store operation = true)
    (hnames : d.naming.rotatedNames cluster.store = .ok names) : d.naming.HasRoom names := by
  -- the names listed are names of indices of the store, and `h` speaks about all of these
  rw [hasRoom, hd] at h
  dsimp only at h
  rw [hrotates, Bool.not_true, Bool.false_or, List.all_eq_true] at h
  intro name hname
  have hexists := (Naming.of_mem_rotatedNames hnames hname).2
  have hnumber := h name (Table.mem_keys_iff.mpr (Table.contains_eq_true_iff.mp hexists))
  simpa using hnumber

end Cluster

end RollingIndex
