import RollingIndex.Store.Operation
import RollingIndex.Proofs.Bindings
import RollingIndex.Proofs.BulkWrites

/-!
# Consistency of a store

What the parts of a store say about each other, after any history:

* every alias in the table is bound to something, and only to indices that exist;
* the creation orders of the indices are distinct and lie below the one that comes next, so a new
  index is younger than all others, also under the name of a deleted one.

This is the invariant `Store.Consistent`. It holds of an empty store and each event keeps it
(`Store.Consistent.step`), so it holds after every history (`Store.consistent_run`). A bulk request
on such a store never meets an alias without an index
(`Store.Consistent.writeTarget_ne_noWriteIndex`), nor an alias that leads to an index that does not
exist (`Store.Consistent.contains_of_writeTarget`).
-/

namespace RollingIndex

/-- Whether an event tries to create an index. -/
def StoreEvent.creates : StoreEvent → Bool
  | .operation (.create _ _) => true
  | _ => false

namespace Store

variable {store : Store}

/-! ## What an event does -/

/-- The store after an event: as it was, or with the one change that the operation stands for. -/
inductive Step (store : Store) : StoreEvent → Store → Prop where
  /-- nothing is changed; the operation may have failed -/
  | kept (event : StoreEvent) : Step store event store
  /-- a fault is switched -/
  | switched (fault : FaultSwitch) : Step store (.fault fault) (store.switch fault)
  /-- an index is created under a free name -/
  | created (name : String) (settings : IndexSettings) : store.Free name →
      Step store (.operation (.create name settings))
        (store.withIndex name settings)
  /-- an index gets a mapping -/
  | mapped (name : String) (mapping : Json) :
      Step store (.operation (.putMapping name mapping))
        { store with
          indices := store.indices.modify name fun index =>
            { index with mapping := some mapping } }
  /-- an index is deleted -/
  | deleted (name : String) : store.indices.contains name = true →
      Step store (.operation (.delete name)) (store.withoutIndex name)
  /-- the aliases are changed; what they get bound to exists -/
  | realiased (actions : List AliasAction) :
      (∀ index aliasName, .add index aliasName ∈ actions →
        store.indices.contains index = true) →
      Step store (.operation (.updateAliases actions))
        { store with aliases := store.aliases.apply actions }
  /-- the items of a request are written -/
  | written (request : BulkRequest) :
      Step store (.operation (.bulk request)) (store.afterBulk request)
  /-- documents are deleted -/
  | purged (names : List String) (field : String) (first last : Int) :
      Step store (.operation (.deleteByRange names field first last))
        { store with indices := store.afterPurge names field first last }

/-- **Every event is one of these steps.** -/
theorem step_spec (store : Store) (event : StoreEvent) : Step store event (store.step event) := by
  cases event with
  | fault fault => exact .switched fault
  | operation operation =>
    rw [Store.step]
    cases operation with
    | create name settings =>
      rw [StoreOperation.perform, Effect.on_bind_pure]
      rcases create_cases name settings store with ⟨e, h⟩ | ⟨hfree, -, h⟩
      · rw [h]
        exact .kept _
      · rw [h]
        exact .created name settings hfree
    | putMapping name mapping =>
      rw [StoreOperation.perform, Effect.on_bind_pure, on_putMapping]
      split
      · exact .kept _
      · split
        · split
          · exact .mapped name mapping
          · exact .kept _
        · exact .kept _
    | delete name =>
      rw [StoreOperation.perform, Effect.on_bind_pure]
      rcases delete_cases name store with ⟨e, h⟩ | ⟨hexists, h⟩
      · rw [h]
        exact .kept _
      · rw [h]
        exact .deleted name hexists
    | updateAliases actions =>
      rw [StoreOperation.perform, Effect.on_bind_pure]
      rcases updateAliases_cases actions store with ⟨e, h⟩ | h | ⟨hexists, h⟩
      · rw [h]
        exact .kept _
      · rw [h]
        exact .kept _
      · rw [h]
        exact .realiased actions hexists
    | bulk request =>
      rw [StoreOperation.perform, Effect.on_bind_pure]
      rcases bulk_cases request store with ⟨e, h⟩ | h
      · rw [h]
        exact .kept _
      · rw [h]
        exact .written request
    | deleteByRange names field first last =>
      rw [StoreOperation.perform, Effect.on_bind_pure]
      rcases deleteByRange_cases names field first last store with ⟨e, h⟩ | ⟨removed, h⟩
      · rw [h]
        exact .kept _
      · rw [h]
        exact .purged names field first last

/-! ## The invariant -/

/-- The parts of the store fit together. -/
structure Consistent (store : Store) : Prop where
  /-- an alias in the table is bound to something -/
  bound : ∀ {aliasName : String} {bound : NameSet},
    store.aliases.get? aliasName = some bound → bound.keys ≠ []
  /-- what an alias is bound to exists -/
  exists_target : ∀ {aliasName index : String},
    index ∈ store.aliases.targets aliasName → store.indices.contains index = true
  /-- creation orders lie below the next one -/
  order_lt : ∀ {name : String} {index : Index},
    store.indices.get? name = some index → index.creationOrder < store.nextOrder
  /-- an index is determined by its creation order -/
  order_inj : ∀ {name name' : String} {index index' : Index},
    store.indices.get? name = some index → store.indices.get? name' = some index' →
      index.creationOrder = index'.creationOrder → name = name'

theorem consistent_empty : Consistent {} where
  bound h := by cases h
  exists_target h := by cases h
  order_lt h := by cases h
  order_inj h := by cases h

namespace Consistent

/-- A change within indices, which keeps their names and creation orders. -/
theorem of_indices (h : store.Consistent) {indices : Table Index} {trace : List BulkTrace}
    {f : String → Index → Index}
    (hindices : ∀ name, indices.get? name = (store.indices.get? name).map (f name))
    (horder : ∀ name index, (f name index).creationOrder = index.creationOrder) :
    Consistent { store with indices := indices, trace := trace } where
  bound := h.bound
  exists_target htarget :=
    (sameNames_of_get?_eq_map hindices _).trans (h.exists_target htarget)
  order_lt {name index} hindex := by
    obtain ⟨before, hbefore, rfl⟩ := Option.map_eq_some_iff.mp ((hindices name).symm.trans hindex)
    rw [horder]
    exact h.order_lt hbefore
  order_inj {name name' index index'} hindex hindex' heq := by
    obtain ⟨before, hbefore, rfl⟩ := Option.map_eq_some_iff.mp ((hindices name).symm.trans hindex)
    obtain ⟨before', hbefore', rfl⟩ :=
      Option.map_eq_some_iff.mp ((hindices name').symm.trans hindex')
    rw [horder, horder] at heq
    exact h.order_inj hbefore hbefore' heq

theorem withIndex (h : store.Consistent) {name : String} {settings : IndexSettings}
    {mapping : Option Json} : (store.withIndex name settings mapping).Consistent where
  bound := h.bound
  exists_target htarget := contains_withIndex (h.exists_target htarget)
  order_lt {other found} hfound := by
    rw [Store.withIndex, Table.get?_insert] at hfound
    show found.creationOrder < store.nextOrder + 1
    split at hfound
    · cases hfound
      exact Nat.lt_succ_self _
    · exact Nat.lt_succ_of_lt (h.order_lt hfound)
  order_inj {other other' found found'} hfound hfound' heq := by
    rw [Store.withIndex, Table.get?_insert] at hfound hfound'
    -- the new index has the order that no other index has reached
    by_cases hother : other = name
    · by_cases hother' : other' = name
      · rw [hother, hother']
      · rw [if_pos hother] at hfound
        rw [if_neg hother'] at hfound'
        cases hfound
        have hlt := h.order_lt hfound'
        rw [← heq] at hlt
        exact absurd hlt (Nat.lt_irrefl _)
    · rw [if_neg hother] at hfound
      by_cases hother' : other' = name
      · rw [if_pos hother'] at hfound'
        cases hfound'
        have hlt := h.order_lt hfound
        rw [heq] at hlt
        exact absurd hlt (Nat.lt_irrefl _)
      · rw [if_neg hother'] at hfound'
        exact h.order_inj hfound hfound' heq

theorem withoutIndex (h : store.Consistent) {name : String} :
    (store.withoutIndex name).Consistent where
  bound hbound := AliasTable.keys_ne_nil_of_get?_prune hbound
  exists_target {aliasName target} htarget := by
    obtain ⟨hne, htarget⟩ := AliasTable.mem_targets_withoutIndex.mp htarget
    have hexists := h.exists_target htarget
    rw [Table.contains_eq_true_iff] at hexists ⊢
    rwa [Store.withoutIndex, Table.get?_erase, if_neg hne]
  order_lt {other found} hfound := by
    rw [Store.withoutIndex, Table.get?_erase] at hfound
    split at hfound
    · cases hfound
    · exact h.order_lt hfound
  order_inj {other other' found found'} hfound hfound' heq := by
    rw [Store.withoutIndex, Table.get?_erase] at hfound hfound'
    split at hfound
    · cases hfound
    · split at hfound'
      · cases hfound'
      · exact h.order_inj hfound hfound' heq

theorem realias (h : store.Consistent) {actions : List AliasAction}
    (hexists : ∀ index aliasName, .add index aliasName ∈ actions →
      store.indices.contains index = true) :
    Consistent { store with aliases := store.aliases.apply actions } where
  bound hbound := AliasTable.keys_ne_nil_of_get?_prune hbound
  exists_target htarget := by
    rcases AliasTable.mem_targets_apply_imp htarget with hadd | hbefore
    · exact hexists _ _ hadd
    · exact h.exists_target hbefore
  order_lt := h.order_lt
  order_inj := h.order_inj

/-- **Every event keeps a store consistent.** -/
theorem step (h : store.Consistent) (event : StoreEvent) : (store.step event).Consistent := by
  have hstep := step_spec store event
  generalize store.step event = after at hstep
  cases hstep with
  | kept => exact h
  | switched => exact ⟨h.bound, h.exists_target, h.order_lt, h.order_inj⟩
  | created => exact h.withIndex
  | mapped name mapping =>
    refine h.of_indices (f := fun other index =>
      if other = name then { index with mapping := some mapping } else index) (fun other => ?_)
      fun other index => ?_
    · rw [Table.get?_modify]
      split <;> simp
    · split <;> rfl
  | deleted => exact h.withoutIndex
  | realiased actions hexists => exact h.realias hexists
  | written request =>
    -- documents change, and no index comes or goes
    refine h.of_indices (get?_afterItems store request.items) fun name index => ?_
    dsimp only
    split <;> rfl
  | purged names field first last =>
    refine h.of_indices (get?_afterPurge store names field first last) fun name index => ?_
    split <;> rfl

end Consistent

/-- **A store is consistent after every history.** -/
theorem consistent_run (history : List StoreEvent) : (run history).Consistent := by
  suffices h : ∀ (history : List StoreEvent) (store : Store), store.Consistent →
      (history.foldl step store).Consistent from h history {} consistent_empty
  intro history
  induction history with
  | nil => exact fun _ h => h
  | cons event history ih => exact fun store h => ih _ (h.step event)

/-! ## The order of creation in numbers

Creation orders are counted up from zero, so with fewer than `2 ^ 64` creations they fit 64 bits. -/

theorem nextOrder_step_le (store : Store) (event : StoreEvent) :
    (store.step event).nextOrder ≤ store.nextOrder + if event.creates then 1 else 0 := by
  have hstep := step_spec store event
  generalize store.step event = after at hstep
  cases hstep <;> simp [StoreEvent.creates, switch, withIndex, withoutIndex, afterBulk]

/-- The next creation order is at most the number of creations tried. -/
theorem nextOrder_run_le (history : List StoreEvent) :
    (run history).nextOrder ≤ history.countP StoreEvent.creates := by
  suffices h : ∀ (history : List StoreEvent) (store : Store),
      (history.foldl step store).nextOrder ≤
        store.nextOrder + history.countP StoreEvent.creates from
    Nat.le_trans (h history {}) (Nat.le_of_eq (Nat.zero_add _))
  intro history
  induction history with
  | nil => exact fun store => Nat.le_refl _
  | cons event history ih =>
    intro store
    have hstep := nextOrder_step_le store event
    have hrest := ih (store.step event)
    rw [List.foldl_cons, List.countP_cons]
    omega

/-! ## Bulk requests on a consistent store -/

/-- A name in a request is never an alias without an index. -/
theorem Consistent.writeTarget_ne_noWriteIndex (h : store.Consistent) (name other : String) :
    store.aliases.writeTarget name ≠ .error (.noWriteIndex other) := by
  intro htarget
  rw [AliasTable.writeTarget] at htarget
  split at htarget
  · cases htarget
  · rename_i bound hbound
    have hne := h.bound hbound
    split at htarget
    · cases htarget
    · rename_i hkeys
      exact hne hkeys
    · cases htarget

/-- An alias that leads to an index leads to one that exists. -/
theorem Consistent.contains_of_writeTarget (h : store.Consistent) {name target : String}
    (halias : store.aliases.contains name = true)
    (htarget : store.aliases.writeTarget name = .ok target) :
    store.indices.contains target = true := by
  obtain ⟨bound, hbound⟩ := Table.contains_eq_true_iff.mp halias
  rw [AliasTable.writeTarget, hbound] at htarget
  dsimp only at htarget
  split at htarget
  · rename_i only hkeys
    cases htarget
    exact h.exists_target (AliasTable.mem_targets.mpr ⟨bound, hbound, by simp [hkeys]⟩)
  · cases htarget
  · cases htarget

/-- No item fails for want of an index behind an alias. -/
theorem Consistent.itemResult_failure_ne (h : store.Consistent) (item : BulkItem) :
    (∀ name, (store.itemResult item).failure ≠ some (.noWriteIndex name)) ∧
      (store.aliases.contains item.index = true →
        ∀ index, (store.itemResult item).failure ≠ some (.missingIndex index)) := by
  rw [itemResult, writeItem]
  cases htarget : store.aliases.writeTarget item.index with
  | error failure =>
    dsimp only
    refine ⟨fun name heq => ?_, fun _ index heq => ?_⟩
    · cases heq
      exact h.writeTarget_ne_noWriteIndex _ _ htarget
    · cases heq
      rw [AliasTable.writeTarget] at htarget
      repeat' split at htarget
      all_goals cases htarget
  | ok target =>
    dsimp only
    split
    · simp
    · cases hindex : store.indices.get? target with
      | some index => simp
      | none =>
        refine ⟨fun name heq => ?_, fun halias => ?_⟩
        · cases heq
        · have hexists := h.contains_of_writeTarget halias htarget
          rw [contains_eq_false_iff.mpr hindex] at hexists
          cases hexists

/-! ## After any history -/

/-- **The parts of a store fit together after every history**: no alias is bound to nothing, what an
alias is bound to exists, and creation orders are distinct and below the next one, which has grown
by at most one with each creation. So an index just created is younger than all others, resolving
the name of an item never finds an alias without an index, and an item for an alias never fails for
want of an index. -/
theorem run_representation (history : List StoreEvent) :
    (∀ aliasName bound, (run history).aliases.get? aliasName = some bound → bound.keys ≠ []) ∧
    (∀ aliasName bound index, (run history).aliases.get? aliasName = some bound →
      index ∈ bound.keys → (run history).indices.contains index = true) ∧
    (∀ name name' index index', (run history).indices.get? name = some index →
      (run history).indices.get? name' = some index' →
        index.creationOrder = index'.creationOrder → name = name') ∧
    (∀ name index, (run history).indices.get? name = some index →
      index.creationOrder < (run history).nextOrder) ∧
    (run history).nextOrder ≤ history.countP StoreEvent.creates ∧
    (∀ name settings confirmed after,
      Effect.on (create name settings) (run history) = (.ok confirmed, after) →
        ∃ index, after.indices.get? name = some index ∧
          ∀ other found, other ≠ name → after.indices.get? other = some found →
            found.creationOrder < index.creationOrder) ∧
    (∀ name other, (run history).aliases.writeTarget name ≠ .error (.noWriteIndex other)) ∧
    (∀ request results after, Effect.on (bulk request) (run history) = (.ok results, after) →
      results.length = request.items.length ∧
        ∀ (k : Nat) (item : BulkItem) (result : ItemResult),
          request.items[k]? = some item → results[k]? = some result →
          (∀ name, result.failure ≠ some (.noWriteIndex name)) ∧
            ((run history).aliases.contains item.index = true →
              ∀ index, result.failure ≠ some (.missingIndex index))) := by
  have h := consistent_run history
  refine ⟨fun _ _ => h.bound, fun _ bound _ hbound hmem => ?_, fun _ _ _ _ => h.order_inj,
    fun _ _ => h.order_lt, nextOrder_run_le history, ?_, h.writeTarget_ne_noWriteIndex, ?_⟩
  · exact h.exists_target (AliasTable.mem_targets.mpr ⟨bound, hbound, hmem⟩)
  · intro name settings confirmed after hcreate
    rcases create_cases name settings (run history) with ⟨e, hfailed⟩ | ⟨-, -, hcreated⟩
    · rw [hfailed] at hcreate
      cases hcreate
    · rw [hcreated] at hcreate
      cases hcreate
      refine ⟨_, (Table.get?_insert ..).trans (if_pos rfl), fun other found hother hfound => ?_⟩
      rw [withIndex, Table.get?_insert, if_neg hother] at hfound
      exact h.order_lt hfound
  · intro request results after hbulk
    rcases bulk_cases request (run history) with ⟨e, hfailed⟩ | hwritten
    · rw [hfailed] at hbulk
      cases hbulk
    · rw [hwritten] at hbulk
      cases hbulk
      refine ⟨List.length_map _, fun k item result hitem hresult => ?_⟩
      rw [List.getElem?_map, hitem] at hresult
      cases hresult
      exact h.itemResult_failure_ne item

end Store

end RollingIndex
