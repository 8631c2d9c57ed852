import RollingIndex.Proofs.BulkSemantics
import RollingIndex.Proofs.DualWrites

/-!
# Two requests in either order

The two requests of a batch are submitted together, and it is not for the deployment to say which of
them is carried out first. It does not matter:

* **what a request answers does not depend on another one before it** (`Store.bulk_after_bulk`), for
  no request changes aliases, faults or names of indices;
* **two requests that are for different indices leave the same store in both orders**, up to the
  order of their two entries in the trace (`Store.commutes_of_disjoint`);
* **so a batch comes to the same in both orders** unless the alias and the name of the recent index
  lead to one index (`Deployment.on_writeBatchIn`). Even the trace is the same then, for the two
  requests of a batch look alike in it.

The first two are said of every store and all requests, whatever becomes of their items.
-/

namespace RollingIndex

/-- What is remembered of a request. -/
def BulkRequest.entry (request : BulkRequest) : BulkTrace where
  items := request.items.length
  consistency := request.consistency
  replication := request.replication

namespace Store

variable {store : Store} {first second : BulkRequest} {name : String}

/-! ## One request after another -/

/-- The store after two requests, one after the other. -/
def afterBoth (store : Store) (first second : BulkRequest) : Store :=
  (Effect.on (bulk second) (Effect.on (bulk first) store).2).2

/-- **A request answers the same before and after another one**, and it writes the same to an index
that the other one leaves as it is. -/
theorem bulk_after_bulk (request other : BulkRequest) (store : Store) :
    (Effect.on (bulk request) (Effect.on (bulk other) store).2).1 =
        (Effect.on (bulk request) store).1 ∧
      ∀ {name : String},
        (Effect.on (bulk other) store).2.indices.get? name = store.indices.get? name →
          (store.afterBoth other request).indices.get? name =
            (Effect.on (bulk request) store).2.indices.get? name :=
  bulk_congr (bulk_frame other store).2.1 fun item _ => itemResult_bulk other store item

/-- A request that fails as a whole changes nothing. -/
theorem bulk_of_error {request : BulkRequest} {e : Failure}
    (h : (Effect.on (bulk request) store).1 = .error e) :
    (Effect.on (bulk request) store).2 = store := by
  rcases bulk_cases request store with ⟨_, hfailed⟩ | hwritten
  · rw [hfailed]
  · rw [hwritten] at h
    cases h

/-- A request that is answered is carried out. -/
theorem bulk_of_ok {request : BulkRequest} {results : List ItemResult}
    (h : (Effect.on (bulk request) store).1 = .ok results) :
    (Effect.on (bulk request) store).2 = store.afterBulk request := by
  rcases bulk_cases request store with ⟨_, hfailed⟩ | hwritten
  · rw [hfailed] at h
    cases h
  · rw [hwritten]

/-- A request does not touch the order of creation and the nodes. -/
theorem bulk_rest (request : BulkRequest) (store : Store) :
    (Effect.on (bulk request) store).2.nextOrder = store.nextOrder ∧
      (Effect.on (bulk request) store).2.nodes = store.nodes := by
  rcases bulk_cases request store with ⟨e, hfailed⟩ | hwritten
  · rw [hfailed]
    exact ⟨rfl, rfl⟩
  · rw [hwritten]
    exact ⟨rfl, rfl⟩

/-- Two requests change nothing but documents and the trace. -/
theorem afterBoth_frame (store : Store) (first second : BulkRequest) :
    (store.afterBoth first second).aliases = store.aliases ∧
      (store.afterBoth first second).faults = store.faults ∧
      (store.afterBoth first second).nextOrder = store.nextOrder ∧
      (store.afterBoth first second).nodes = store.nodes := by
  obtain ⟨haliases, hfaults, -⟩ := bulk_frame first store
  obtain ⟨horder, hnodes⟩ := bulk_rest first store
  obtain ⟨haliases', hfaults', -⟩ := bulk_frame second (Effect.on (bulk first) store).2
  obtain ⟨horder', hnodes'⟩ := bulk_rest second (Effect.on (bulk first) store).2
  exact ⟨haliases'.trans haliases, hfaults'.trans hfaults, horder'.trans horder,
    hnodes'.trans hnodes⟩

/-! ## The trace -/

theorem trace_afterBulk (store : Store) (request : BulkRequest) :
    (store.afterBulk request).trace = record store.trace request.entry := by
  rw [afterBulk, BulkRequest.entry]

theorem record_eq (trace : List BulkTrace) (entry : BulkTrace) :
    record trace entry = trace.drop (trace.length + 1 - BulkTrace.capacity) ++ [entry] := by
  rw [record, List.length_append, List.length_singleton,
    List.drop_append_of_le_length (by rw [BulkTrace.capacity]; omega)]

/-- Of two entries made one after the other both are remembered, as the last ones. -/
theorem record_record (trace : List BulkTrace) (entry entry' : BulkTrace) :
    record (record trace entry) entry' =
      trace.drop (trace.length + 2 - BulkTrace.capacity) ++ [entry, entry'] := by
  have hlength : (record trace entry).length + 1 - BulkTrace.capacity ≤
      (trace.drop (trace.length + 1 - BulkTrace.capacity)).length := by
    rw [record_eq, List.length_append, List.length_drop, List.length_singleton,
      BulkTrace.capacity]
    omega
  -- what the second entry makes forgotten comes right after what the first one did
  have hforgotten : trace.length + 1 - BulkTrace.capacity +
      ((record trace entry).length + 1 - BulkTrace.capacity) =
        trace.length + 2 - BulkTrace.capacity := by
    rw [record_eq, List.length_append, List.length_drop, List.length_singleton,
      BulkTrace.capacity]
    omega
  rw [record_eq (record trace entry) entry', ← hforgotten, ← List.drop_drop]
  generalize (record trace entry).length + 1 - BulkTrace.capacity = count at hlength ⊢
  rw [record_eq, List.drop_append_of_le_length hlength, List.append_assoc]
  rfl

/-! ## Requests for different indices -/

/-- The indices that a request is for: those that the names of its items resolve to. A name that is
an alias of several indices resolves to none. -/
def targetsOf (store : Store) (request : BulkRequest) : List String :=
  request.items.filterMap fun item => (store.aliases.writeTarget item.index).toOption

/-- An item lands in an index that its request is for. -/
theorem mem_targetsOf_of_lands {request : BulkRequest} {item : BulkItem}
    (hitem : item ∈ request.items) (hlands : store.Lands name item) :
    name ∈ store.targetsOf request := by
  refine List.mem_filterMap.mpr ⟨item, hitem, ?_⟩
  rw [(lands_iff.mp hlands).1]
  rfl

/-- An index in which no item of the second request lands is the same in both orders. -/
theorem get?_afterBoth_comm (h : ∀ item ∈ second.items, ¬ store.Lands name item) :
    (store.afterBoth first second).indices.get? name =
      (store.afterBoth second first).indices.get? name := by
  have hafter : ∀ item ∈ second.items,
      ¬ (Effect.on (bulk first) store).2.Lands name item := fun item hitem hlands =>
    h item hitem (lands_bulk.mp hlands)
  have hkept := get?_bulk_of_forall h
  rw [(bulk_after_bulk first second store).2 hkept]
  exact get?_bulk_of_forall hafter

/-- Two requests come to the same in both orders. -/
structure Commutes (store : Store) (first second : BulkRequest) : Prop where
  /-- the first one answers the same before and after the second -/
  first_answer : (Effect.on (bulk first) (Effect.on (bulk second) store).2).1 =
    (Effect.on (bulk first) store).1
  /-- the second one answers the same before and after the first -/
  second_answer : (Effect.on (bulk second) (Effect.on (bulk first) store).2).1 =
    (Effect.on (bulk second) store).1
  /-- the store is the same with its indices, documents and aliases, up to the trace -/
  same : store.afterBoth first second =
    { store.afterBoth second first with trace := (store.afterBoth first second).trace }
  /-- the traces differ in the order of the two entries at most -/
  trace : (store.afterBoth first second).trace = (store.afterBoth second first).trace ∨
    ∃ older, (store.afterBoth first second).trace = older ++ [first.entry, second.entry] ∧
      (store.afterBoth second first).trace = older ++ [second.entry, first.entry]

/-- The entries of two requests are made in the order of the requests, unless one of them fails as a
whole. -/
theorem trace_afterBoth (store : Store) (first second : BulkRequest) :
    (store.afterBoth first second).trace = (store.afterBoth second first).trace ∨
      ∃ older, (store.afterBoth first second).trace = older ++ [first.entry, second.entry] ∧
        (store.afterBoth second first).trace = older ++ [second.entry, first.entry] := by
  have hfirst := (bulk_after_bulk first second store).1
  have hsecond := (bulk_after_bulk second first store).1
  rw [afterBoth, afterBoth]
  cases hanswer : (Effect.on (bulk first) store).1 with
  | error e =>
    -- the first request does nothing in either order
    rw [bulk_of_error hanswer, bulk_of_error (hfirst.trans hanswer)]
    exact .inl rfl
  | ok results =>
    cases hanswer' : (Effect.on (bulk second) store).1 with
    | error e =>
      rw [bulk_of_error hanswer', bulk_of_error (hsecond.trans hanswer')]
      exact .inl rfl
    | ok results' =>
      rw [bulk_of_ok (hfirst.trans hanswer), bulk_of_ok (hsecond.trans hanswer'),
        bulk_of_ok hanswer, bulk_of_ok hanswer']
      simp only [trace_afterBulk, record_record]
      exact .inr ⟨_, rfl, rfl⟩

/-- Stores that agree in all parts but the trace are the same up to the trace. -/
theorem eq_of_parts {after after' : Store} (hindices : after.indices = after'.indices)
    (haliases : after.aliases = after'.aliases) (horder : after.nextOrder = after'.nextOrder)
    (hnodes : after.nodes = after'.nodes) (hfaults : after.faults = after'.faults) :
    after = { after' with trace := after.trace } := by
  cases after
  cases after'
  cases hindices
  cases haliases
  cases horder
  cases hnodes
  cases hfaults
  rfl

/-- **Requests come to the same in both orders if no index gets documents of both.** -/
theorem commutes_of_apart (h : ∀ name, (∀ item ∈ first.items, ¬ store.Lands name item) ∨
    ∀ item ∈ second.items, ¬ store.Lands name item) : store.Commutes first second where
  first_answer := (bulk_after_bulk first second store).1
  second_answer := (bulk_after_bulk second first store).1
  same := by
    obtain ⟨haliases, hfaults, horder, hnodes⟩ := store.afterBoth_frame first second
    obtain ⟨haliases', hfaults', horder', hnodes'⟩ := store.afterBoth_frame second first
    refine eq_of_parts ?_ (haliases.trans haliases'.symm) (horder.trans horder'.symm)
      (hnodes.trans hnodes'.symm) (hfaults.trans hfaults'.symm)
    apply Table.ext_get?
    intro name
    rcases h name with hfirst | hsecond
    · exact (get?_afterBoth_comm hfirst).symm
    · exact get?_afterBoth_comm hsecond
  trace := store.trace_afterBoth first second

/-- Requests for different indices come to the same in both orders. -/
theorem commutes_of_disjoint
    (h : ∀ index ∈ store.targetsOf first, index ∉ store.targetsOf second) :
    store.Commutes first second := by
  refine commutes_of_apart fun name => ?_
  by_cases hname : name ∈ store.targetsOf first
  · exact .inr fun item hitem hlands => h name hname (mem_targetsOf_of_lands hitem hlands)
  · exact .inl fun item hitem hlands => hname (mem_targetsOf_of_lands hitem hlands)

/-- Two requests that look alike in the trace leave the very same store in both orders. -/
theorem Commutes.afterBoth_eq (h : store.Commutes first second)
    (hentry : first.entry = second.entry) :
    store.afterBoth first second = store.afterBoth second first := by
  have htrace : (store.afterBoth first second).trace = (store.afterBoth second first).trace := by
    rcases h.trace with htrace | ⟨older, hfirst, hsecond⟩
    · exact htrace
    · rw [hfirst, hsecond, hentry]
  rw [h.same, htrace]

/-! ## Names that lead to one index -/

/-- Two names lead to one index. -/
def SamePlace (store : Store) (name other : String) : Prop :=
  ∃ index, store.LeadsTo name index ∧ store.LeadsTo other index

/-- A name and another one that is no alias lead to one index if the first leads to the index of the
other name. -/
theorem samePlace_iff {other : String} (hother : store.aliases.get? other = none) :
    store.SamePlace name other ↔ store.LeadsTo name other := by
  constructor
  · rintro ⟨index, hname, hindex⟩
    cases hindex with
    | direct => exact hname
    | aliased _ htargets =>
      rw [AliasTable.targets, hother] at htargets
      cases htargets
  · intro hname
    exact ⟨other, hname, .direct hother (leadsTo_iff.mp hname).2⟩

end Store

namespace Deployment

variable {desk : Desk}

/-! ## The two requests of a batch -/

/-- Which of the two requests of a batch is carried out first. -/
inductive BatchOrder where
  /-- the one to the alias -/
  | mainFirst
  /-- the one to the recent index -/
  | recentFirst

/-- Make both requests of a batch. The outcome of the one to the alias is answered first, in
whichever order they are carried out. -/
def submit (d : Deployment) (records : List Record) :
    BatchOrder → Action (Except Failure (List ItemResult) × Except Failure (List ItemResult))
  | .mainFirst => do
    let main ← outcomeOf (Action.onStore (Store.bulk (d.mainRequest records)))
    let recent ← outcomeOf (Action.onStore (Store.bulk (d.recentRequest records)))
    return (main, recent)
  | .recentFirst => do
    let recent ← outcomeOf (Action.onStore (Store.bulk (d.recentRequest records)))
    let main ← outcomeOf (Action.onStore (Store.bulk (d.mainRequest records)))
    return (main, recent)

/-- What is left of a batch when both requests have an outcome: each outcome that is no failure is
logged, and the batch is answered. -/
def conclude (main recent : Except Failure (List ItemResult)) : Action Bool :=
  match main, recent with
  | .ok main, .ok recent => do
    logBulk mainPlace main
    logBulk recentPlace recent
    return !ItemResult.anyFailed main && !ItemResult.anyFailed recent
  | .error e, .ok recent => do
    logBulk recentPlace recent
    throw e
  | .ok main, .error e => do
    logBulk mainPlace main
    throw e
  | .error e, .error _ => throw e

/-- Write a batch with its two requests carried out in a given order. -/
def writeBatchIn (d : Deployment) (order : BatchOrder) (records : List Record) : Action Bool :=
  if records.isEmpty then return true
  else do
    let (main, recent) ← d.submit records order
    conclude main recent

/-- A batch is written with the request to the alias first. -/
theorem on_writeBatchIn_mainFirst (d : Deployment) (records : List Record) (desk : Desk) :
    Effect.on (d.writeBatchIn .mainFirst records) desk = Effect.on (d.writeBatch records) desk := by
  rw [writeBatchIn, writeBatch]
  split
  · rfl
  · simp only [submit, Effect.on_bind, on_outcomeOf, Effect.on_pure]
    rfl

/-- What is submitted is answered with the outcomes of both requests, and the store is the one after
both, in the order in which they were carried out. -/
theorem on_submit_recentFirst (d : Deployment) (records : List Record) (desk : Desk) :
    Effect.on (d.submit records .recentFirst) desk =
      (.ok ((Effect.on (Store.bulk (d.mainRequest records))
          (Effect.on (Store.bulk (d.recentRequest records)) desk.store).2).1,
        (Effect.on (Store.bulk (d.recentRequest records)) desk.store).1),
        { desk with
          store := desk.store.afterBoth (d.recentRequest records) (d.mainRequest records) }) := by
  simp only [submit, Effect.on_bind, on_outcomeOf, Action.on_onStore, Effect.on_pure]
  rfl

theorem on_submit_mainFirst (d : Deployment) (records : List Record) (desk : Desk) :
    Effect.on (d.submit records .mainFirst) desk =
      (.ok ((Effect.on (Store.bulk (d.mainRequest records)) desk.store).1,
        (Effect.on (Store.bulk (d.recentRequest records))
          (Effect.on (Store.bulk (d.mainRequest records)) desk.store).2).1),
        { desk with
          store := desk.store.afterBoth (d.mainRequest records) (d.recentRequest records) }) := by
  simp only [submit, Effect.on_bind, on_outcomeOf, Action.on_onStore, Effect.on_pure]
  rfl

/-- The two requests of a batch come to the same in both orders unless the alias and the name of the
recent index lead to one index. -/
theorem commutes_batch (d : Deployment) (records : List Record) {store : Store}
    (hplaces : ¬ store.SamePlace d.naming.writeAlias d.naming.recentIndex) :
    store.Commutes (d.mainRequest records) (d.recentRequest records) := by
  -- an item lands where the place of its request leads
  have hleads : ∀ {place name : String} {ttl : Option Nat},
      ∀ item ∈ (batchRequest place ttl records).items, store.Lands name item →
        store.LeadsTo place name := by
    intro place name ttl item hitem hlands
    obtain ⟨record, -, rfl⟩ := List.mem_map.mp hitem
    exact (Store.lands_iff_leadsTo.mp hlands).1
  refine Store.commutes_of_apart fun name => ?_
  by_cases hmain : store.LeadsTo d.naming.writeAlias name
  · exact .inr fun item hitem hlands => hplaces ⟨name, hmain, hleads item hitem hlands⟩
  · exact .inl fun item hitem hlands => hmain (hleads item hitem hlands)

/-- **A batch comes to the same in whichever order its requests are carried out**, unless the alias
and the name of the recent index lead to one index. -/
theorem on_writeBatchIn (d : Deployment) (records : List Record) (order : BatchOrder)
    (hplaces : ¬ desk.store.SamePlace d.naming.writeAlias d.naming.recentIndex) :
    Effect.on (d.writeBatchIn order records) desk = Effect.on (d.writeBatch records) desk := by
  rw [← d.on_writeBatchIn_mainFirst]
  cases order with
  | mainFirst => rfl
  | recentFirst =>
    have hcommutes := d.commutes_batch records hplaces
    have hentry : (d.mainRequest records).entry = (d.recentRequest records).entry := by
      simp only [BulkRequest.entry, mainRequest, recentRequest, batchRequest, List.length_map]
    rw [writeBatchIn, writeBatchIn]
    split
    · rfl
    · rw [Effect.on_bind, Effect.on_bind, on_submit_recentFirst, on_submit_mainFirst,
        hcommutes.first_answer, hcommutes.second_answer, hcommutes.afterBoth_eq hentry]

/-- **Which of two requests is carried out first does not matter** if they are for different
indices: each of them answers the same in both orders, and the same indices, documents and aliases
are left, in whatever store and whatever becomes of the items. So a batch answers the same and
leaves the same store, record and log whichever of its requests is carried out first, unless the
alias and the name of the recent index lead to one index; where that name is no alias, this means
that the alias leads to the recent index. -/
theorem requests_commute :
    (∀ (store : Store) (first second : BulkRequest),
      (∀ index ∈ store.targetsOf first, index ∉ store.targetsOf second) →
        store.Commutes first second) ∧
    (∀ (d : Deployment) (records : List Record) (order : BatchOrder) (desk : Desk),
      ¬ desk.store.SamePlace d.naming.writeAlias d.naming.recentIndex →
        Effect.on (d.writeBatchIn order records) desk = Effect.on (d.writeBatch records) desk) ∧
    ∀ (store : Store) (d : Deployment), store.aliases.get? d.naming.recentIndex = none →
      (store.SamePlace d.naming.writeAlias d.naming.recentIndex ↔
        store.LeadsTo d.naming.writeAlias d.naming.recentIndex) :=
  ⟨fun _ _ _ => Store.commutes_of_disjoint,
    fun d records order _ => d.on_writeBatchIn records order,
    fun _ _ => Store.samePlace_iff⟩

/-- A request that writes to an id twice, at last without a lifetime to speak of, with items that
fail. -/
def overwritingRequest : BulkRequest where
  items := [{ index := "b_0", id := "x", source := .int 1 },
    { index := "two", id := "x", source := .int 2 },
    { index := "b_2", id := "x", source := .int 3 },
    { index := "b_1", id := "y", source := .int 4 },
    { index := "b_0", id := "x", source := .int 5, ttlMinutes := some 0 }]

/-- A request through an alias and one beside it, both with items that fail, commute. So do the two
requests of a batch of which one fails as a whole. -/
theorem requests_commute_mixed :
    Store.aliasedStore.targetsOf Store.mixedRequest = ["a_0", "a_0", "a_0", "none", "a_0", "a_0"] ∧
      Store.aliasedStore.targetsOf overwritingRequest = ["b_0", "b_2", "b_1", "b_0"] ∧
      Store.aliasedStore.Commutes Store.mixedRequest overwritingRequest ∧
      (Effect.on ((named "a" "recent").writeBatch [⟨"x", .int 1⟩, ⟨"y", .int 2⟩])
        { store := failingStore }).1 = .error (.storeUnavailable "bulk to <recent> timed out") ∧
      Effect.on ((named "a" "recent").writeBatchIn .recentFirst [⟨"x", .int 1⟩, ⟨"y", .int 2⟩])
          { store := failingStore } =
        Effect.on ((named "a" "recent").writeBatch [⟨"x", .int 1⟩, ⟨"y", .int 2⟩])
          { store := failingStore } := by
  have happart : ¬ failingStore.SamePlace (named "a" "recent").naming.writeAlias
      (named "a" "recent").naming.recentIndex := by
    rw [requests_commute.2.2 failingStore (named "a" "recent") rfl]
    intro hleads
    have hne := hleads.unique (.aliased "a_0" rfl rfl)
    revert hne
    decide
  exact ⟨rfl, rfl, requests_commute.1 _ _ _ (by decide), rfl,
    requests_commute.2.1 (named "a" "recent") _ .recentFirst _ happart⟩

end Deployment

end RollingIndex
