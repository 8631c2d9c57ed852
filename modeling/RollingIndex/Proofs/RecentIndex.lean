import RollingIndex.Proofs.Startup

/-!
# The life of the recent index

The recent index of a deployment is created once, under a name of its own. What keeps it from being
rotated, purged or swept like the other indices of the prefix is its name alone: the deployment
excludes it by that name, and no deployment may read a number in it. So **the recent index is never
lost** (`Cluster.recentIndex_never_lost`): once it exists it stays as it is but for the documents of
batches, no alias is bound to it, and there is nothing more to ensure.
-/

namespace RollingIndex

variable {d : Deployment} {store after : Store} {name : String} {index : Index}

/-- A name without a number is not rotated. -/
theorem Naming.isRotated_of_indexNumber?_eq_none {naming : Naming}
    (h : naming.indexNumber? name = none) : naming.isRotated name = false := by
  rw [isRotated, h, Option.isSome_none, Bool.and_false]

/-- **An alias is bound to no name but that of the new index of a rotation.** -/
theorem Deployment.Transition.notMem_targets {operation : Operation}
    {result : Except Failure Answer} (htransition : d.Transition store operation result after)
    (hunbound : ∀ aliasName, name ∉ store.aliases.targets aliasName)
    (hnew : ∀ names, name ≠ d.naming.nextName names) :
    ∀ aliasName, name ∉ after.aliases.targets aliasName := by
  cases htransition with
  | kept => exact hunbound
  | rotated _ result _ _ hrotation =>
    cases hrotation with
    | refused => exact hunbound
    | stranded => exact hunbound
    | moved old names hold =>
      intro aliasName
      rw [targets_cutover (Store.targets_of_currentTarget hold)]
      split
      · exact fun hmem => hnew names (List.mem_singleton.mp hmem)
      · exact hunbound aliasName
  | created => exact hunbound
  | wrote records =>
    rw [(d.afterBatch_frame records store).1]
    exact hunbound
  | purged => exact hunbound
  | swept =>
    intro aliasName hmem
    exact hunbound aliasName (Store.mem_targets_withoutIndices.mp hmem).2

namespace Cluster

variable {cluster : Cluster}

/-! ## Names that no deployment reads a number in -/

/-- No deployment counts the name as that of a rotated index. -/
def Unnumbered (cluster : Cluster) (name : String) : Prop :=
  ∀ q ∈ cluster.deployments, q.naming.indexNumber? name = none

theorem Unnumbered.step (h : cluster.Unnumbered name) (event : Event) :
    (cluster.step event).Unnumbered name := by
  rw [Unnumbered, deployments_step]
  exact h

/-- An index without a number outlives every event, and only a batch changes its documents. -/
theorem Unnumbered.get?_step (h : cluster.Unnumbered name)
    (hindex : cluster.store.indices.get? name = some index) (event : Event) :
    ∃ documents, (cluster.step event).store.indices.get? name = some { index with documents } ∧
      ((∀ member records, event ≠ .operation member (.writeBatch records)) →
        documents = index.documents) := by
  have hstep := cluster.step_store event
  generalize (cluster.step event).store = after at hstep
  cases hstep with
  | switched => exact ⟨_, hindex, fun _ => rfl⟩
  | absent => exact ⟨_, hindex, fun _ => rfl⟩
  | performed member operation d result _ hd _ htransition =>
    obtain ⟨documents, hafter, hdocuments⟩ := htransition.get?_of_not_rotated hindex
      (Naming.isRotated_of_indexNumber?_eq_none (h d (List.mem_of_getElem? hd)))
    refine ⟨documents, hafter, fun hother => hdocuments fun records heq => ?_⟩
    exact hother member records (heq ▸ rfl)

theorem Unnumbered.get?_run (h : cluster.Unnumbered name)
    (hindex : cluster.store.indices.get? name = some index) (events : List Event) :
    ∃ documents,
      (cluster.run events).store.indices.get? name = some { index with documents } := by
  induction events generalizing cluster index with
  | nil => exact ⟨_, hindex⟩
  | cons event events ih =>
    obtain ⟨documents, hstep, -⟩ := h.get?_step hindex event
    obtain ⟨documents', hrun⟩ := ih (h.step event) hstep
    exact ⟨documents', hrun⟩

/-- No event binds an alias to a name without a number, for new indices have one. -/
theorem Unnumbered.notMem_targets_step (h : cluster.Unnumbered name)
    (hunbound : ∀ aliasName, name ∉ cluster.store.aliases.targets aliasName) (event : Event) :
    ∀ aliasName, name ∉ (cluster.step event).store.aliases.targets aliasName := by
  have hstep := cluster.step_store event
  generalize (cluster.step event).store = after at hstep
  cases hstep with
  | switched => exact hunbound
  | absent => exact hunbound
  | performed member operation d result _ hd _ htransition =>
    refine htransition.notMem_targets hunbound fun names heq => ?_
    have hnumber := d.naming.indexNumber?_nextName names
    rw [← heq, h d (List.mem_of_getElem? hd)] at hnumber
    cases hnumber

theorem Unnumbered.notMem_targets_run (h : cluster.Unnumbered name)
    (hunbound : ∀ aliasName, name ∉ cluster.store.aliases.targets aliasName)
    (events : List Event) :
    ∀ aliasName, name ∉ (cluster.run events).store.aliases.targets aliasName := by
  induction events generalizing cluster with
  | nil => exact hunbound
  | cons event events ih => exact ih (h.step event) (h.notMem_targets_step hunbound event)

/-! ## The recent index -/

/-- Where the recent index exists and the store can be reached, ensuring it changes nothing at
all. -/
theorem ensureRecentIndex_again {member : Nat}
    (hd : cluster.deployments[member]? = some d)
    (hexists : cluster.store.indices.contains d.naming.recentIndex = true)
    (hreached : cluster.store.faults.unavailable = false) :
    cluster.answer? member .ensureRecentIndex = some (.ok (.flag false)) ∧
      cluster.step (.operation member .ensureRecentIndex) = cluster := by
  obtain ⟨m, hm, rfl⟩ := exists_member hd
  have hensure : Effect.on (m.deployment.perform .ensureRecentIndex) (cluster.desk m) =
      (.ok (.flag false), cluster.desk m) := by
    rw [Deployment.perform, Effect.on_bind_pure, Deployment.ensureRecentIndex_of_contains
      (Store.hasIndex_eq_ok_iff.mpr ⟨hreached, hexists⟩)]
    rfl
  constructor
  · rw [answer?_of_member hm, hensure]
  · rw [step, act_of_member hm, hensure]
    obtain ⟨hlt, hget⟩ := List.getElem?_eq_some_iff.mp hm
    show Cluster.mk cluster.store (cluster.members.set member m) = cluster
    rw [← hget, List.set_getElem_self]

/-- **The recent index is created once and never lost.** Take any run of any deployments with a
store that was empty, one of them with an accepted configuration and none of the others reading a
number in the name of its recent index. Once an index of that name exists, it exists after every
continuation of the run, with the same settings, mapping and creation order, and:

* of what may happen next only a batch changes its documents, so no purge and no sweep does;
* no alias is bound to it;
* if the store can be reached there is nothing to ensure: the answer is that nothing was created,
  and nothing changes. -/
theorem recentIndex_never_lost (ds : List Deployment) {member : Nat}
    (hd : ds[member]? = some d) (haccepted : d.Accepted)
    (hothers : ∀ k q, ds[k]? = some q → k ≠ member →
      q.naming.indexNumber? d.naming.recentIndex = none)
    (before rest : List Event)
    (hindex : ((start ds).run before).store.indices.get? d.naming.recentIndex = some index) :
    ∃ documents,
      ((start ds).run (before ++ rest)).store.indices.get? d.naming.recentIndex =
        some { index with documents } ∧
      (∀ event, (∀ k records, event ≠ .operation k (.writeBatch records)) →
        (((start ds).run (before ++ rest)).step event).store.indices.get? d.naming.recentIndex =
          some { index with documents }) ∧
      (∀ aliasName, d.naming.recentIndex ∉
        ((start ds).run (before ++ rest)).store.aliases.targets aliasName) ∧
      (((start ds).run (before ++ rest)).store.faults.unavailable = false →
        ((start ds).run (before ++ rest)).answer? member .ensureRecentIndex =
            some (.ok (.flag false)) ∧
          ((start ds).run (before ++ rest)).step (.operation member .ensureRecentIndex) =
            (start ds).run (before ++ rest)) := by
  have hunnumbered : ∀ q ∈ ds, q.naming.indexNumber? d.naming.recentIndex = none := by
    intro q hq
    obtain ⟨k, hk⟩ := List.mem_iff_getElem?.mp hq
    by_cases hself : k = member
    · subst hself
      rw [hd] at hk
      cases hk
      exact haccepted.indexNumber?_recentIndex
    · exact hothers k q hk hself
  have hall : ∀ events, ((start ds).run events).Unnumbered d.naming.recentIndex := by
    intro events
    rw [Unnumbered, deployments_run, deployments_start]
    exact hunnumbered
  rw [run_append]
  obtain ⟨documents, hstays⟩ := (hall before).get?_run hindex rest
  refine ⟨documents, hstays, fun event hevent => ?_, ?_, fun hreached => ?_⟩
  · have hlater := hall (before ++ rest)
    rw [run_append] at hlater
    obtain ⟨documents', hstep, hsame⟩ := hlater.get?_step hstays event
    rw [hstep, hsame hevent]
  · rw [← run_append]
    exact (hall []).notMem_targets_run (fun _ => List.not_mem_nil) (before ++ rest)
  · refine ensureRecentIndex_again ?_ (Table.contains_eq_true_iff.mpr ⟨_, hstays⟩) hreached
    rw [deployments_run, deployments_run, deployments_start, hd]

/-- Two deployments share a store. The one ensures its recent index, and then both rotate and sweep,
the one purges, and a second creation is tried. -/
def sharedByTwo : Cluster :=
  (start [.named "logs" "logs_recent", .named "logs_web" "recent"]).run
    ([.operation 0 .setup, .operation 0 .ensureRecentIndex] ++
      [.operation 1 .cycle, .operation 1 .sweep, .operation 0 (.purge 100),
        .operation 0 .createRecentIndex, .operation 0 .sweep])

theorem recentIndex_never_lost_shared :
    (∃ documents, sharedByTwo.store.indices.get? "logs_recent" =
      some { settings := { shards := 4, replicas := 0, storeType := some "niofs" },
             mapping := some .null, creationOrder := 1, documents }) ∧
      (∀ aliasName, "logs_recent" ∉ sharedByTwo.store.aliases.targets aliasName) ∧
      sharedByTwo.answer? 0 .ensureRecentIndex = some (.ok (.flag false)) := by
  have hmember : [Deployment.named "logs" "logs_recent", .named "logs_web" "recent"][0]? =
      some (.named "logs" "logs_recent") := rfl
  have hothers : ∀ k q, [Deployment.named "logs" "logs_recent", .named "logs_web" "recent"][k]? =
      some q → k ≠ 0 → q.naming.indexNumber? "logs_recent" = none := by
    rintro (_ | _ | k) q hk hne
    · exact absurd rfl hne
    · cases hk
      rfl
    · cases hk
  obtain ⟨documents, hstays, -, hunbound, hensured⟩ := recentIndex_never_lost _ hmember
    (.named rfl) hothers [.operation 0 .setup, .operation 0 .ensureRecentIndex]
    [.operation 1 .cycle, .operation 1 .sweep, .operation 0 (.purge 100),
      .operation 0 .createRecentIndex, .operation 0 .sweep] rfl
  exact ⟨⟨documents, hstays⟩, hunbound, (hensured rfl).1⟩

end Cluster

end RollingIndex
