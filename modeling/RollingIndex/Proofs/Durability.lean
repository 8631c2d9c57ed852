import RollingIndex.Proofs.Configurations
import RollingIndex.Proofs.Isolation

/-!
# Durability of acknowledged batches

When a batch is answered with success, every record of it is in the index that the alias led to, and
it stays there until it is replaced, purged or swept away:

* **a document is written**: all items of the request to the alias land in its target, and the last
  one of an id counts; the request to the recent index does not reach that target
  (`Deployment.document?_of_writeBatch`);
* **a document stays** at every event that does not write to its id in its index, purge its time
  from its index or delete its index (`Cluster.document?_step`); rotations, fault switches and the
  creation of indices are none of these.
-/

namespace RollingIndex

variable {store : Store} {d : Deployment} {index id : String}
  {record : Record}

/-- The document that a record becomes in the index that the alias leads to. -/
def Record.document (record : Record) : Document where
  source := record.body
  ttlMinutes := none

namespace Store

/-! ## What a request reports -/

/-- Whether a request reports that it wrote a document to an index under an id. -/
def bulkReports (store : Store) (request : BulkRequest) (index id : String) : Bool :=
  match (Effect.on (bulk request) store).1 with
  | .ok results => results.contains { index, id, failure := none }
  | .error _ => false

/-- A request that is carried out reports the items that land. -/
theorem bulkReports_eq_true_iff {request : BulkRequest}
    (h : Effect.on (bulk request) store =
      (.ok (request.items.map store.itemResult), store.afterBulk request)) :
    store.bulkReports request index id = true ↔
      ∃ item ∈ request.items, item.id = id ∧ store.Lands index item := by
  rw [bulkReports, h]
  show List.contains _ _ = true ↔ _
  rw [List.contains_iff_mem, List.mem_map]
  constructor
  · rintro ⟨item, hitem, hresult⟩
    have hid : item.id = id := by rw [← store.itemResult_id item, hresult]
    exact ⟨item, hitem, hid, by rw [Lands, hresult, hid]⟩
  · rintro ⟨item, hitem, rfl, hlands⟩
    exact ⟨item, hitem, hlands⟩

theorem lands_of_bulkReports {request : BulkRequest}
    (h : store.bulkReports request index id = true) :
    ∃ item ∈ request.items, item.id = id ∧ store.Lands index item := by
  rcases bulk_cases request store with ⟨e, hfailed⟩ | hwritten
  · rw [bulkReports, hfailed] at h
    cases h
  · exact (bulkReports_eq_true_iff hwritten).mp h

/-- A document stays as it is at a request that does not report it. -/
theorem document?_bulk {request : BulkRequest} (h : store.bulkReports request index id = false) :
    (Effect.on (bulk request) store).2.document? index id = store.document? index id := by
  rcases bulk_cases request store with ⟨e, hfailed⟩ | hwritten
  · rw [hfailed]
  · have hlast : store.lastLanding index id request.items = none := by
      refine lastLanding_eq_none fun item hitem hlands => ?_
      have hreported := (bulkReports_eq_true_iff hwritten).mpr ⟨item, hitem, hlands⟩
      rw [h] at hreported
      cases hreported
    rw [hwritten]
    dsimp only
    rw [document?_afterBulk, hlast]

theorem get?_ne_none_of_document? {document : Document}
    (h : store.document? index id = some document) : store.indices.get? index ≠ none := by
  intro hnone
  rw [document?, hnone] at h
  cases h

/-! ## Documents at other changes -/

theorem document?_withIndex {name : String} {settings : IndexSettings} {mapping : Option Json}
    {document : Document} (hfree : store.Free name)
    (h : store.document? index id = some document) :
    (store.withIndex name settings mapping).document? index id = some document := by
  have hne : index ≠ name := by
    rintro rfl
    exact get?_ne_none_of_document? h hfree.1
  rw [document?_of_get?_eq (get?_withIndex_of_ne hne), h]

/-- A purge leaves a document alone whose time lies outside its range. -/
theorem document?_purged {names : List String} {upTo : Int}
    (houtside : (names.contains index && record.document.inRange createdAtField 0 upTo) = false)
    (h : store.document? index id = some record.document) :
    { store with indices := store.afterPurge names createdAtField 0 upTo }.document? index id =
      some record.document := by
  rw [document?_afterPurge, h, Option.filter_some, houtside]
  rfl

end Store

/-! ## A batch answered with success -/

namespace Deployment

/-- What an accepted deployment writes to its recent index reaches no index that it numbers. -/
theorem bulkReports_recentRequest (h : store.WellAliased) (haccepted : d.Accepted)
    (hrecent : d.naming.recentIndex ≠ d.naming.writeAlias)
    (hnumber : d.naming.indexNumber? index ≠ none) (records : List Record) :
    store.bulkReports (d.recentRequest records) index id = false := by
  refine Bool.eq_false_iff.mpr fun hreported => hnumber ?_
  obtain ⟨item, hitem, -, hlands⟩ := Store.lands_of_bulkReports hreported
  obtain ⟨record, -, rfl⟩ := List.mem_map.mp hitem
  exact h.indexNumber?_eq_none_of_lands hlands hrecent haccepted.indexNumber?_recentIndex

/-- A batch is answered with success only if each item of the request to the alias was written. -/
theorem main_of_writeBatch {desk : Desk} {records : List Record} (hrecords : records ≠ [])
    (h : (Effect.on (d.writeBatch records) desk).1 = .ok true) :
    Effect.on (Store.bulk (d.mainRequest records)) desk.store =
        (.ok ((d.mainRequest records).items.map desk.store.itemResult),
          desk.store.afterBulk (d.mainRequest records)) ∧
      ∀ item ∈ (d.mainRequest records).items, (desk.store.itemResult item).failure = none := by
  obtain ⟨after, hwrite, -⟩ := d.on_writeBatch hrecords desk
  rw [hwrite] at h
  obtain ⟨results, results', hmain, -, hresults, -⟩ := batchAnswer_eq_ok_true_iff.mp h
  rcases Store.bulk_cases (d.mainRequest records) desk.store with ⟨e, hfailed⟩ | hwritten
  · rw [hfailed] at hmain
    cases hmain
  · rw [hwritten] at hmain
    cases hmain
    refine ⟨hwritten, fun item hitem => ?_⟩
    rw [ItemResult.anyFailed, List.any_eq_false] at hresults
    simpa using hresults _ (List.mem_map_of_mem hitem)

/-- **A batch answered with success is written**: the last record of an id is in the index that the
alias leads to, without a limit of lifetime, and the request to the recent index leaves it there. -/
theorem document?_of_writeBatch {desk : Desk} {older newer : List Record}
    (hsafe : desk.store.WellAliased) (haccepted : d.Accepted)
    (hrecent : d.naming.recentIndex ≠ d.naming.writeAlias)
    (htarget : desk.store.aliases.targets d.naming.writeAlias = [index])
    (hlast : ∀ other ∈ newer, other.id ≠ record.id)
    (h : (Effect.on (d.writeBatch (older ++ record :: newer)) desk).1 = .ok true) :
    (Effect.on (d.writeBatch (older ++ record :: newer)) desk).2.store.document? index record.id =
      some record.document := by
  have hrecords : older ++ record :: newer ≠ [] := by simp
  obtain ⟨hmain, hwritten⟩ := main_of_writeBatch hrecords h
  obtain ⟨after, hwrite, hafter⟩ := d.on_writeBatch hrecords desk
  have hnumber : d.naming.indexNumber? index ≠ none :=
    hsafe.indexNumber?_ne_none (htarget ▸ List.mem_singleton_self index)
  have hmiddle : (d.afterMain (older ++ record :: newer) desk.store).WellAliased := hsafe.bulk _
  have hlands : desk.store.Lands index
      { index := d.naming.writeAlias, id := record.id, source := record.body } := by
    have hlanded := Store.Lands.of_failure_eq_none (hwritten
      { index := d.naming.writeAlias, id := record.id, source := record.body }
      (List.mem_map_of_mem (List.mem_append_right older (List.mem_cons_self ..))))
    have hresolved := (Store.lands_iff.mp hlanded).1
    rw [AliasTable.writeTarget_of_targets htarget] at hresolved
    rw [Except.ok.inj hresolved]
    exact hlanded
  -- the request to the recent index comes second and does not reach the index
  rw [hwrite, hafter, afterBatch, Store.document?_bulk
    (bulkReports_recentRequest hmiddle haccepted hrecent hnumber _), afterMain, hmain]
  exact document?_batchRequest hlands hlast

end Deployment

namespace Cluster

variable {cluster : Cluster} {event : Event}

/-! ## What may happen to a document -/

/-- Whether an event disturbs the document of a record in an index: a batch reports that it wrote
to the id there, a purge lists the index and the time of the record lies in its range, or a sweep
reports that it deleted the index. -/
def disturbs (cluster : Cluster) (index : String) (record : Record) : Event → Bool
  | .fault _ => false
  | .operation member operation =>
    match cluster.deployments[member]? with
    | none => false
    | some d =>
      match operation with
      | .writeBatch records =>
        cluster.store.bulkReports (d.mainRequest records) index record.id ||
          (d.afterMain records cluster.store).bulkReports (d.recentRequest records) index record.id
      | .purge upTo =>
        match d.naming.rotatedNames cluster.store with
        | .ok names =>
          names.contains index && record.document.inRange createdAtField 0 upTo
        | .error _ => false
      | .sweep =>
        match cluster.answer? member .sweep with
        | some (.ok (.swept report)) => report.deleted.contains index
        | _ => false
      | _ => false

/-- Whether no event of a run disturbs the document of a record in an index. -/
def undisturbed (cluster : Cluster) (index : String) (record : Record) : List Event → Bool
  | [] => true
  | event :: events =>
    !cluster.disturbs index record event && (cluster.step event).undisturbed index record events

/-- **A document stays as it is** at every event that does not disturb it. -/
theorem document?_step (h : cluster.store.document? index record.id = some record.document)
    (hundisturbed : cluster.disturbs index record event = false) :
    (cluster.step event).store.document? index record.id = some record.document := by
  have hstep := cluster.step_store event
  generalize (cluster.step event).store = after at hstep
  cases hstep with
  | switched fault => exact (Store.document?_of_get?_eq rfl).trans h
  | absent => exact h
  | performed member operation d result _ hd hresult htransition =>
    rw [disturbs, hd] at hundisturbed
    cases htransition with
    | kept => exact h
    | rotated _ result _ _ hrotation =>
      cases hrotation with
      | refused => exact h
      | stranded names _ _ _ hfree => exact Store.document?_withIndex hfree h
      | moved old names _ _ hfree =>
        exact (Store.document?_of_get?_eq rfl).trans (Store.document?_withIndex hfree h)
    | created _ _ _ _ hfree => exact Store.document?_withIndex hfree h
    | wrote records =>
      obtain ⟨hmain, hrecent⟩ := Bool.or_eq_false_iff.mp hundisturbed
      exact (Store.document?_bulk hrecent).trans ((Store.document?_bulk hmain).trans h)
    | purged upTo names count hnames =>
      dsimp only at hundisturbed
      rw [hnames] at hundisturbed
      exact Store.document?_purged hundisturbed h
    | swept report =>
      dsimp only at hundisturbed
      rw [hresult] at hundisturbed
      have hkept : index ∉ report.deleted := by simpa using hundisturbed
      rw [Store.document?_of_get?_eq ((Store.get?_withoutIndices ..).trans (if_neg hkept)), h]

theorem document?_run (h : cluster.store.document? index record.id = some record.document)
    {events : List Event} (hundisturbed : cluster.undisturbed index record events = true) :
    (cluster.run events).store.document? index record.id = some record.document := by
  induction events generalizing cluster with
  | nil => exact h
  | cons event events ih =>
    rw [undisturbed, Bool.and_eq_true, Bool.not_eq_true'] at hundisturbed
    exact ih (document?_step h hundisturbed.1) hundisturbed.2

/-- A batch answered with success is written. -/
theorem document?_step_of_batch {member : Nat} {older newer : List Record}
    (hsafe : cluster.store.WellAliased) (hd : cluster.deployments[member]? = some d)
    (haccepted : d.Accepted) (hrecent : d.naming.recentIndex ≠ d.naming.writeAlias)
    (htarget : cluster.store.aliases.targets d.naming.writeAlias = [index])
    (hlast : ∀ other ∈ newer, other.id ≠ record.id)
    (hwritten : cluster.answer? member (.writeBatch (older ++ record :: newer)) =
      some (.ok (.flag true))) :
    (cluster.step (.operation member (.writeBatch (older ++ record :: newer)))).store.document?
      index record.id = some record.document := by
  obtain ⟨m, hm, hmember, hresult⟩ := exists_member_of_answer? hd hwritten
  rw [store_step_of_member hm, hmember]
  rw [Deployment.perform, Effect.on_bind_pure] at hresult ⊢
  refine Deployment.document?_of_writeBatch hsafe haccepted hrecent htarget hlast ?_
  cases hanswer : (Effect.on (d.writeBatch (older ++ record :: newer)) (cluster.desk m)).1 with
  | error e =>
    rw [hanswer] at hresult
    cases hresult
  | ok value =>
    rw [hanswer] at hresult
    cases hresult
    rfl

/-- A sweep of a deployment with another prefix disturbs no document in an index of this one. -/
theorem disturbs_foreign_sweep {member : Nat} {p : Deployment}
    (hp : cluster.deployments[member]? = some p) (hstem : p.naming.stem ≠ d.naming.stem)
    (hnumber : d.naming.indexNumber? index ≠ none) :
    cluster.disturbs index record (.operation member .sweep) = false := by
  rw [disturbs, hp]
  dsimp only
  split
  · rename_i report hanswer
    obtain ⟨m, -, -, hresult⟩ := exists_member_of_answer? hp hanswer
    rw [Deployment.perform, Effect.on_bind_pure] at hresult
    rcases p.sweep_cases (cluster.desk m) with
      ⟨e, hsweep⟩ | ⟨swept, after, current, hsweep, -, -, hdeleted⟩
    · rw [hsweep] at hresult
      cases hresult
    · rw [hsweep] at hresult
      cases hresult
      refine Bool.eq_false_iff.mpr fun hmem => hnumber ?_
      have hrotated := (hdeleted index (List.contains_iff_mem.mp hmem)).1
      exact (Naming.Owns.of_isRotated hrotated).indexNumber?_eq_none hstem
  · rfl

/-- **Batches answered with success are durable.** Take any run of any deployments with a store that
was empty, under any faults, and after it a batch of an accepted deployment whose alias, which is
not its recent index, leads to an index. If the batch is answered with success, the last record of
an id is in that index, with the body given and without a limit of lifetime, after the batch and
after every continuation of the run that does not disturb it. The deployment's own writes to its
recent index and sweeps under other prefixes never do. -/
theorem run_durable (ds : List Deployment) (before rest : List Event) (member : Nat)
    (d : Deployment) (older newer : List Record) (record : Record) (index : String)
    (hd : ds[member]? = some d) (haccepted : d.Accepted)
    (hrecent : d.naming.recentIndex ≠ d.naming.writeAlias)
    (htarget : ((start ds).run before).store.aliases.targets d.naming.writeAlias = [index])
    (hlast : ∀ other ∈ newer, other.id ≠ record.id)
    (hwritten : ((start ds).run before).answer? member
      (.writeBatch (older ++ record :: newer)) = some (.ok (.flag true)))
    (hundisturbed : (((start ds).run before).step
      (.operation member (.writeBatch (older ++ record :: newer)))).undisturbed index record rest =
        true) :
    ((start ds).run (before ++ .operation member (.writeBatch (older ++ record :: newer)) ::
        rest)).store.document? index record.id =
      some { source := record.body, ttlMinutes := none } ∧
    (∀ records, Store.bulkReports
      (d.afterMain records ((start ds).run (before ++
        .operation member (.writeBatch (older ++ record :: newer)) :: rest)).store)
      (d.recentRequest records) index record.id = false) ∧
    ∀ other p, ds[other]? = some p → p.naming.stem ≠ d.naming.stem →
      ((start ds).run (before ++ .operation member (.writeBatch (older ++ record :: newer)) ::
        rest)).disturbs index record (.operation other .sweep) = false := by
  have hsafe : ((start ds).run before).store.WellAliased :=
    wellAliased_run Store.wellAliased_empty before
  have hnumber : d.naming.indexNumber? index ≠ none :=
    hsafe.indexNumber?_ne_none (htarget ▸ List.mem_singleton_self index)
  refine ⟨?_, fun records => ?_, fun other p hp hstem => ?_⟩
  · have hfound : ((start ds).run before).deployments[member]? = some d := by
      rw [deployments_run, deployments_start, hd]
    have hbatch := document?_step_of_batch hsafe hfound haccepted hrecent htarget hlast hwritten
    have hrun := document?_run hbatch hundisturbed
    rw [run_append]
    exact hrun
  · have hafter : ((start ds).run (before ++
        .operation member (.writeBatch (older ++ record :: newer)) :: rest)).store.WellAliased :=
      wellAliased_run Store.wellAliased_empty _
    exact Deployment.bulkReports_recentRequest (hafter.bulk (d.mainRequest records)) haccepted
      hrecent hnumber records
  · refine disturbs_foreign_sweep ?_ hstem hnumber
    rw [deployments_run, deployments_start, hp]

/-- A record written twice in one batch is found as it was written last, after a purge of older
messages, a rotation and one more batch with its id, which goes to the new index. -/
theorem run_durable_after_rotation :
    ((start [.named "a" "a_recent", .named "a_0" "recent"]).run
        ([.operation 0 .setup, .operation 1 .setup, .operation 0 .createRecentIndex] ++
          .operation 0 (.writeBatch ([⟨"x", .null⟩] ++
            ⟨"x", .object [("created_at", .int 7)]⟩ :: [⟨"y", .null⟩])) ::
          [.operation 0 (.purge 6), .operation 0 .cycle,
            .operation 0 (.writeBatch [⟨"x", .null⟩]), .operation 1 .sweep])).store.document?
        "a_0" "x" =
      some { source := .object [("created_at", .int 7)], ttlMinutes := none } :=
  (run_durable [.named "a" "a_recent", .named "a_0" "recent"]
    [.operation 0 .setup, .operation 1 .setup, .operation 0 .createRecentIndex]
    [.operation 0 (.purge 6), .operation 0 .cycle, .operation 0 (.writeBatch [⟨"x", .null⟩]),
      .operation 1 .sweep]
    0 (.named "a" "a_recent") [⟨"x", .null⟩] [⟨"y", .null⟩]
    ⟨"x", .object [("created_at", .int 7)]⟩ "a_0" rfl ⟨_, _, _, rfl, rfl⟩ (by decide) (by decide)
    (by simp) rfl (by decide)).1

end Cluster

end RollingIndex
