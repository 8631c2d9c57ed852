import RollingIndex.Deployment.Run
import RollingIndex.Proofs.BulkWrites
import RollingIndex.Proofs.Sweeps

/-!
# What an operation of a deployment does to the store

Whatever a deployment performs, and however it ends, the store after it is one of a few: the store
as it was, the store after a rotation, or the store with a recent index, with a batch written,
with documents purged or with indices swept away (`Deployment.Transition`). That each operation is
one of these is proved once (`Deployment.perform_transition`), and what an operation keeps is proved
by going through the cases: **an index that is not rotated outlives every operation**
(`Deployment.Transition.get?_of_not_rotated`).
-/

namespace RollingIndex

namespace Deployment

variable {d : Deployment} {desk : Desk}

/-! ## Batches -/

/-- The store after the request that writes a batch to the alias. -/
def afterMain (d : Deployment) (records : List Record) (store : Store) : Store :=
  (Effect.on (Store.bulk (d.mainRequest records)) store).2

/-- The store after both requests that write a batch. -/
def afterBatch (d : Deployment) (records : List Record) (store : Store) : Store :=
  (Effect.on (Store.bulk (d.recentRequest records)) (d.afterMain records store)).2

/-- A batch leaves the aliases, the faults and the names of the indices as they are. -/
theorem afterBatch_frame (d : Deployment) (records : List Record) (store : Store) :
    (d.afterBatch records store).aliases = store.aliases ∧
      (d.afterBatch records store).faults = store.faults ∧
      Store.SameNames (d.afterBatch records store).indices store.indices := by
  obtain ⟨haliases, hfaults, hnames⟩ := Store.bulk_frame (d.mainRequest records) store
  obtain ⟨haliases', hfaults', hnames'⟩ :=
    Store.bulk_frame (d.recentRequest records) (d.afterMain records store)
  exact ⟨haliases'.trans haliases, hfaults'.trans hfaults,
    fun name => (hnames' name).trans (hnames name)⟩

/-- The last record of an id gives the document that is seen where it lands, unless the lifetime is
over at once. -/
theorem document?_batchRequest {store : Store} {place index : String} {ttl : Option Nat}
    {older newer : List Record} {record : Record}
    (hlands : store.Lands index
      { index := place, id := record.id, source := record.body, ttlMinutes := ttl })
    (hlast : ∀ later ∈ newer, later.id ≠ record.id) :
    (store.afterBulk (batchRequest place ttl (older ++ record :: newer))).document? index
        record.id =
      Option.filter Document.isLive (some { source := record.body, ttlMinutes := ttl }) := by
  refine Store.document?_of_last (by rw [batchRequest, List.map_append, List.map_cons]) hlands ?_
  rintro item hitem ⟨hid, -⟩
  obtain ⟨later, hlater, rfl⟩ := List.mem_map.mp hitem
  exact hlast later hlater hid

/-- What a batch answers for the outcomes of its two requests. -/
def batchAnswer : (main recent : Except Failure (List ItemResult)) → Except Failure Bool
  | .ok main, .ok recent => .ok (!ItemResult.anyFailed main && !ItemResult.anyFailed recent)
  | .ok _, .error e => .error e
  | .error e, _ => .error e

/-- A batch is answered with success if both requests are carried out and each item is written. -/
theorem batchAnswer_eq_ok_true_iff {main recent : Except Failure (List ItemResult)} :
    batchAnswer main recent = .ok true ↔
      ∃ results results', main = .ok results ∧ recent = .ok results' ∧
        ItemResult.anyFailed results = false ∧ ItemResult.anyFailed results' = false := by
  cases main <;> cases recent <;> simp [batchAnswer]

/-- Both requests of a batch are made, whatever becomes of the first. -/
theorem on_writeBatch (d : Deployment) {records : List Record} (h : records ≠ []) (desk : Desk) :
    ∃ after, Effect.on (d.writeBatch records) desk =
        (batchAnswer (Effect.on (Store.bulk (d.mainRequest records)) desk.store).1
          (Effect.on (Store.bulk (d.recentRequest records)) (d.afterMain records desk.store)).1,
          after) ∧
      after.store = d.afterBatch records desk.store := by
  have hempty : records.isEmpty = false := by simpa using h
  simp only [writeBatch, hempty, Bool.false_eq_true, if_false, Effect.on_bind, on_outcomeOf,
    Action.on_onStore]
  rw [afterBatch, afterMain]
  -- either request may fail as a whole; the log is all that differs between the four cases
  rcases Effect.on (Store.bulk (d.mainRequest records)) desk.store with ⟨e | main, middle⟩
  · rcases Effect.on (Store.bulk (d.recentRequest records)) middle with ⟨e' | recent, last⟩
    · exact ⟨_, rfl, rfl⟩
    · exact ⟨_, rfl, rfl⟩
  · rcases Effect.on (Store.bulk (d.recentRequest records)) middle with ⟨e' | recent, last⟩
    · exact ⟨_, rfl, rfl⟩
    · exact ⟨_, rfl, rfl⟩

/-! ## Purges -/

/-- A purge changes nothing, or the messages up to the time are gone from all rotated indices. -/
theorem purge_cases (d : Deployment) (upTo : Int) (desk : Desk) :
    (∃ e, Effect.on (d.purge upTo) desk = (.error e, desk)) ∨
      ∃ count after names, Effect.on (d.purge upTo) desk = (.ok count, after) ∧
        d.naming.rotatedNames desk.store = .ok names ∧
        after.store = { desk.store with
          indices := desk.store.afterPurge names createdAtField 0 upTo } := by
  simp only [purge, Effect.on_bind, Action.on_ask]
  cases hnames : d.naming.rotatedNames desk.store with
  | error e => exact .inl ⟨e, rfl⟩
  | ok names =>
    dsimp only
    cases names with
    | nil => exact .inr ⟨_, _, [], rfl, rfl, rfl⟩
    | cons name names =>
      simp only [List.isEmpty_cons, Bool.false_eq_true, if_false, Effect.on_bind,
        Action.on_onStore]
      rcases Store.deleteByRange_cases (name :: names) createdAtField 0 upTo desk.store with
        ⟨e, hdelete⟩ | ⟨removed, hdelete⟩
      · rw [hdelete]
        exact .inl ⟨e, rfl⟩
      · rw [hdelete]
        exact .inr ⟨removed, _, _, rfl, rfl, rfl⟩

/-! ## The recent index -/

/-- The settings of the recent index. -/
def recentSettings (d : Deployment) : IndexSettings :=
  { shards := d.shards, replicas := d.replicas, storeType := some d.recentStoreType }

/-- Creating the recent index changes nothing, or the index is there under its name, which was free,
with its mapping or without. -/
theorem createRecentIndex_cases (d : Deployment) (desk : Desk) :
    (Effect.on d.createRecentIndex desk).2.store = desk.store ∨
      desk.store.Free d.naming.recentIndex ∧
        ∃ mapping, (Effect.on d.createRecentIndex desk).2.store =
          desk.store.withIndex d.naming.recentIndex d.recentSettings mapping := by
  simp only [createRecentIndex, Effect.on_bind, Effect.on_lift]
  cases checkStoreType d.recentStoreType with
  | error e => exact .inl rfl
  | ok _ =>
    dsimp only
    rcases d.createWithMapping_cases d.naming.recentIndex
        { shards := d.shards, replicas := d.replicas, storeType := some d.recentStoreType }
        desk with
      ⟨e, after, hcreate, hafter⟩ |
        ⟨hfree, -, ⟨step, after, hcreate, hafter⟩ | ⟨after, hcreate, hafter⟩⟩
    · rw [hcreate]
      exact .inl hafter
    · rw [hcreate]
      exact .inr ⟨hfree, none, hafter⟩
    · rw [hcreate]
      exact .inr ⟨hfree, some d.mapping, hafter⟩

theorem ensureRecentIndex_cases (d : Deployment) (desk : Desk) :
    (Effect.on d.ensureRecentIndex desk).2.store = desk.store ∨
      desk.store.Free d.naming.recentIndex ∧
        ∃ mapping, (Effect.on d.ensureRecentIndex desk).2.store =
          desk.store.withIndex d.naming.recentIndex d.recentSettings mapping := by
  simp only [ensureRecentIndex, Effect.on_bind, Action.on_ask]
  rcases desk.store.hasIndex d.naming.recentIndex with e | found
  · exact .inl rfl
  · cases found with
    | true => exact .inl rfl
    | false =>
      simp only [Bool.false_eq_true, if_false, Effect.on_bind, Action.on_log]
      generalize hlogged : { desk with log := _ } = logged
      have hstore : logged.store = desk.store := by rw [← hlogged]
      have hcases := d.createRecentIndex_cases logged
      rw [hstore] at hcases
      rcases hcreate : Effect.on d.createRecentIndex logged with ⟨e | _, after⟩
      · rw [hcreate] at hcases
        exact hcases
      · rw [hcreate] at hcases
        exact hcases

/-! ## Operations -/

/-- Whether an operation on a store is a rotation. -/
def rotates (d : Deployment) (store : Store) : Operation → Bool
  | .cycle => true
  | .setup => (store.aliases.targets d.naming.writeAlias).isEmpty
  | _ => false

/-- What an operation answers and leaves of a store. -/
inductive Transition (d : Deployment) (store : Store) :
    Operation → Except Failure Answer → Store → Prop where
  /-- it changes nothing, for it fails or has nothing to do -/
  | kept (operation : Operation) (result : Except Failure Answer) :
      Transition d store operation result store
  /-- it rotates -/
  | rotated (operation : Operation) (result : Except Failure String) (after : Store) :
      d.rotates store operation = true → d.Rotation store result after →
      Transition d store operation (result.map .index) after
  /-- it creates the recent index, with its mapping or without -/
  | created (operation : Operation) (result : Except Failure Answer) (mapping : Option Json) :
      operation = .createRecentIndex ∨ operation = .ensureRecentIndex →
      store.Free d.naming.recentIndex →
      Transition d store operation result
        (store.withIndex d.naming.recentIndex d.recentSettings mapping)
  /-- it writes a batch -/
  | wrote (records : List Record) (result : Except Failure Answer) :
      Transition d store (.writeBatch records) result (d.afterBatch records store)
  /-- it purges the rotated indices -/
  | purged (upTo : Int) (names : List String) (count : Nat) :
      d.naming.rotatedNames store = .ok names →
      Transition d store (.purge upTo) (.ok (.count count))
        { store with indices := store.afterPurge names createdAtField 0 upTo }
  /-- it sweeps rotated indices away -/
  | swept (report : SweepReport) (current : String) :
      store.aliases.targets d.naming.writeAlias = [current] →
      (∀ name ∈ report.deleted, d.naming.isRotated name = true ∧ name ≠ current) →
      Transition d store .sweep (.ok (.swept report))
        (store.withoutIndices report.deleted)

/-- Setting up changes nothing where the alias is bound, and rotates where it is not. -/
theorem setup_cases (d : Deployment) (desk : Desk) :
    (Effect.on d.setup desk).2.store = desk.store ∧
        desk.store.aliases.targets d.naming.writeAlias ≠ [] ∨
      desk.store.aliases.targets d.naming.writeAlias = [] ∧
        d.Rotation desk.store (Effect.on d.setup desk).1 (Effect.on d.setup desk).2.store := by
  simp only [setup, Effect.on_bind, Action.on_ask]
  cases htarget : desk.store.currentTarget d.naming.writeAlias with
  | error e =>
    by_cases hunbound : desk.store.aliases.targets d.naming.writeAlias = []
    · exact .inr ⟨hunbound, .refused e⟩
    · exact .inl ⟨rfl, hunbound⟩
  | ok target =>
    have htargets := Store.targets_of_currentTarget htarget
    cases target with
    | bound index => exact .inl ⟨rfl, by rw [htargets]; exact List.cons_ne_nil _ _⟩
    | unbound =>
      simp only [Effect.on_bind, Action.on_log]
      generalize hlogged : { desk with log := _ } = logged
      have hstore : logged.store = desk.store := by rw [← hlogged]
      have hrotation := d.cycle_rotation logged
      rw [hstore] at hrotation
      exact .inr ⟨htargets, hrotation⟩

/-- An operation that rotates does to the store what a rotation does, and answers the same. -/
theorem perform_rotation (d : Deployment) {operation : Operation} (desk : Desk)
    (hrotates : d.rotates desk.store operation = true) :
    ∃ result, (Effect.on (d.perform operation) desk).1 = result.map .index ∧
      d.Rotation desk.store result (Effect.on (d.perform operation) desk).2.store := by
  cases operation with
  | setup =>
    have hunbound : desk.store.aliases.targets d.naming.writeAlias = [] :=
      List.isEmpty_iff.mp hrotates
    rw [perform, Effect.on_bind_pure]
    rcases d.setup_cases desk with ⟨-, hbound⟩ | ⟨-, hrotation⟩
    · exact absurd hunbound hbound
    · exact ⟨_, rfl, hrotation⟩
  | cycle =>
    rw [perform, Effect.on_bind_pure]
    exact ⟨_, rfl, d.cycle_rotation desk⟩
  | createRecentIndex => cases hrotates
  | ensureRecentIndex => cases hrotates
  | writeBatch => cases hrotates
  | purge => cases hrotates
  | sweep => cases hrotates

/-- **What an operation does**, whether it succeeds or fails. -/
theorem perform_transition (d : Deployment) (operation : Operation) (desk : Desk) :
    d.Transition desk.store operation (Effect.on (d.perform operation) desk).1
      (Effect.on (d.perform operation) desk).2.store := by
  cases operation with
  | setup =>
    rw [perform, Effect.on_bind_pure]
    rcases d.setup_cases desk with ⟨hstore, -⟩ | ⟨hunbound, hrotation⟩
    · rw [hstore]
      exact .kept _ _
    · exact .rotated _ _ _ (List.isEmpty_iff.mpr hunbound) hrotation
  | cycle =>
    rw [perform, Effect.on_bind_pure]
    exact .rotated .cycle _ _ rfl (d.cycle_rotation desk)
  | createRecentIndex =>
    rw [perform, Effect.on_bind_pure (f := fun _ => Answer.done)]
    rcases d.createRecentIndex_cases desk with h | ⟨hfree, mapping, h⟩
    · rw [h]
      exact .kept _ _
    · rw [h]
      exact .created _ _ mapping (.inl rfl) hfree
  | ensureRecentIndex =>
    rw [perform, Effect.on_bind_pure]
    rcases d.ensureRecentIndex_cases desk with h | ⟨hfree, mapping, h⟩
    · rw [h]
      exact .kept _ _
    · rw [h]
      exact .created _ _ mapping (.inr rfl) hfree
  | writeBatch records =>
    rw [perform, Effect.on_bind_pure]
    by_cases hrecords : records = []
    · subst hrecords
      exact .kept _ _
    · obtain ⟨after, hwrite, hafter⟩ := d.on_writeBatch hrecords desk
      rw [hwrite, hafter]
      exact .wrote records _
  | purge upTo =>
    rw [perform, Effect.on_bind_pure]
    rcases d.purge_cases upTo desk with ⟨e, h⟩ | ⟨count, after, names, h, hnames, hafter⟩
    · rw [h]
      exact .kept _ _
    · rw [h, hafter]
      exact .purged upTo names count hnames
  | sweep =>
    rw [perform, Effect.on_bind_pure]
    rcases d.sweep_cases desk with ⟨e, h⟩ | ⟨report, after, current, h, hafter, htargets, hdeleted⟩
    · rw [h]
      exact .kept _ _
    · rw [h, hafter]
      exact .swept report current htargets hdeleted

/-! ## What operations keep -/

section

variable {store after : Store} {operation : Operation} {result : Except Failure Answer}
  {name : String}

/-- An operation that neither rotates nor sweeps leaves the aliases as they are. -/
theorem Transition.aliases_of_quiet (htransition : d.Transition store operation result after)
    (hrotates : d.rotates store operation = false) (hsweep : operation ≠ .sweep) :
    after.aliases = store.aliases := by
  cases htransition with
  | kept => rfl
  | rotated _ _ _ hrotates' =>
    rw [hrotates] at hrotates'
    cases hrotates'
  | created => rfl
  | wrote records => exact (d.afterBatch_frame records store).1
  | purged => rfl
  | swept => exact absurd rfl hsweep

/-- An index outlives an operation unless it is a rotated one that is swept, and that is none that
the alias leads to. -/
theorem Transition.contains_or_swept (htransition : d.Transition store operation result after)
    (hexists : store.indices.contains name = true) :
    after.indices.contains name = true ∨
      operation = .sweep ∧ d.naming.isRotated name = true ∧
        name ∉ store.aliases.targets d.naming.writeAlias := by
  cases htransition with
  | kept => exact .inl hexists
  | rotated _ _ _ _ hrotation => exact .inl (hrotation.contains hexists)
  | created => exact .inl (Store.contains_withIndex hexists)
  | wrote records => exact .inl (((d.afterBatch_frame records store).2.2 name).trans hexists)
  | purged upTo names =>
    exact .inl ((Store.sameNames_of_get?_eq_map
      (Store.get?_afterPurge store names createdAtField 0 upTo) name).trans hexists)
  | swept report current hcurrent hdeleted =>
    by_cases hname : name ∈ report.deleted
    · obtain ⟨hrotated, hne⟩ := hdeleted name hname
      rw [hcurrent, List.mem_singleton]
      exact .inr ⟨rfl, hrotated, hne⟩
    · exact .inl (Store.contains_withoutIndices_iff.mpr ⟨hname, hexists⟩)

end

/-! ## Indices that are not rotated -/

/-- A batch changes nothing about an index but its documents. -/
theorem get?_afterBatch_eq_some (d : Deployment) (records : List Record) {store : Store}
    {name : String} {index : Index} (hindex : store.indices.get? name = some index) :
    ∃ documents,
      (d.afterBatch records store).indices.get? name = some { index with documents } := by
  -- so does each of the two requests
  obtain ⟨documents, hmain⟩ := Store.exists_documents_bulk (d.mainRequest records) store name
  obtain ⟨documents', hrecent⟩ := Store.exists_documents_bulk (d.recentRequest records)
    (d.afterMain records store) name
  rw [afterMain, hmain, hindex] at hrecent
  exact ⟨documents', hrecent⟩

/-- **An index that a deployment does not count as rotated outlives all its operations**, with
settings, mapping and creation order, and no operation but a batch changes its documents. -/
theorem Transition.get?_of_not_rotated {store after : Store} {operation : Operation}
    {result : Except Failure Answer} {name : String} {index : Index}
    (htransition : d.Transition store operation result after)
    (hindex : store.indices.get? name = some index) (hrotated : d.naming.isRotated name = false) :
    ∃ documents, after.indices.get? name = some { index with documents } ∧
      ((∀ records, operation ≠ .writeBatch records) → documents = index.documents) := by
  have hspared : d.naming.isRotated name ≠ true := Bool.eq_false_iff.mp hrotated
  -- what is created has a name that was free, and this one was not
  have htaken : ∀ {new}, store.Free new → name ≠ new := fun hfree heq => by
    rw [heq, hfree.1] at hindex
    cases hindex
  cases htransition with
  | kept => exact ⟨_, hindex, fun _ => rfl⟩
  | rotated _ result _ _ hrotation =>
    cases hrotation with
    | refused => exact ⟨_, hindex, fun _ => rfl⟩
    | stranded names step mapping _ hfree =>
      exact ⟨_, (Store.get?_withIndex_of_ne (htaken hfree)).trans hindex, fun _ => rfl⟩
    | moved old names _ _ hfree =>
      exact ⟨_, (Store.get?_withIndex_of_ne (htaken hfree)).trans hindex, fun _ => rfl⟩
  | created _ _ mapping _ hfree =>
    exact ⟨_, (Store.get?_withIndex_of_ne (htaken hfree)).trans hindex, fun _ => rfl⟩
  | wrote records =>
    obtain ⟨documents, hdocuments⟩ := d.get?_afterBatch_eq_some records hindex
    exact ⟨documents, hdocuments, fun hother => absurd rfl (hother records)⟩
  | purged upTo names count hnames =>
    have hname : name ∉ names := fun hmem => hspared (Naming.of_mem_rotatedNames hnames hmem).1
    refine ⟨_, ?_, fun _ => rfl⟩
    rw [Store.get?_afterPurge, hindex, Option.map_some, if_neg hname]
  | swept report current _ hdeleted =>
    have hname : name ∉ report.deleted := fun hmem => hspared (hdeleted name hmem).1
    refine ⟨_, ?_, fun _ => rfl⟩
    rw [Store.get?_withoutIndices, if_neg hname]
    exact hindex

end Deployment

end RollingIndex
