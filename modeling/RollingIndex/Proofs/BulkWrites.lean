import Mathlib.Data.List.Basic
import RollingIndex.Proofs.StoreChanges

/-!
# What a bulk request writes

A request writes its items one after the other, but the outcome of an item does not depend on the
items before it: no item creates or removes an index, and all are resolved with one table of
aliases. So the outcome of each item can be read off the store before the request
(`Store.itemResult`), and the request as a whole is described index by index:

* **an index gets the documents of the items that land in it** (`Store.get?_afterItems`), in order,
  and an index in which none lands stays as it is (`Store.get?_afterItems_of_forall`);
* **the last item of an id counts** (`Store.get?_putItems`);
* **a document without a limit of lifetime stays** if no item of its id lands in its index
  (`Store.document?_afterItems`), for reclaiming drops only what is over.
-/

namespace RollingIndex

/-- The document that an item writes. -/
def BulkItem.document (item : BulkItem) : Document where
  source := item.source
  ttlMinutes := item.ttlMinutes

/-- An alias of one index leads to that index. -/
theorem AliasTable.writeTarget_of_targets {aliases : AliasTable} {aliasName index : String}
    (h : aliases.targets aliasName = [index]) : aliases.writeTarget aliasName = .ok index := by
  rw [targets] at h
  rw [writeTarget]
  cases hbound : aliases.get? aliasName with
  | none =>
    rw [hbound] at h
    cases h
  | some bound =>
    rw [hbound] at h
    dsimp only at h ⊢
    rw [h]

/-- An alias of several indices leads nowhere. -/
theorem AliasTable.writeTarget_of_several {aliases : AliasTable} {aliasName : String}
    (h : 2 ≤ (aliases.targets aliasName).length) :
    aliases.writeTarget aliasName = .error (.severalIndices aliasName) := by
  rw [targets] at h
  rw [writeTarget]
  cases hbound : aliases.get? aliasName with
  | none =>
    rw [hbound] at h
    cases h
  | some bound =>
    rw [hbound] at h
    dsimp only at h ⊢
    generalize bound.keys = keys at h
    match keys with
    | [] => cases h
    | [_] => exact absurd h (by simp)
    | _ :: _ :: _ => rfl

namespace Store

variable {store : Store} {indices : Table Index} {item : BulkItem} {items : List BulkItem}
  {name id : String}

/-! ## Where an item lands -/

/-- The outcome of an item in a store. -/
def itemResult (store : Store) (item : BulkItem) : ItemResult :=
  (writeItem store.aliases store.faults store.indices item).1

/-- The item is written, and to this index. -/
def Lands (store : Store) (name : String) (item : BulkItem) : Prop :=
  store.itemResult item = { index := name, id := item.id, failure := none }

instance : Decidable (store.Lands name item) := inferInstanceAs (Decidable (_ = _))

/-- An item lands in the index that its name leads to, if there is such an index and the document is
not refused. -/
theorem lands_iff :
    store.Lands name item ↔ store.aliases.writeTarget item.index = .ok name ∧
      store.faults.rejectedDocuments.contains (item.index, item.id) = false ∧
        store.indices.contains name = true := by
  rw [Lands, itemResult, writeItem]
  cases htarget : store.aliases.writeTarget item.index with
  | error failure => simp
  | ok target =>
    cases hrejected : store.faults.rejectedDocuments.contains (item.index, item.id) with
    | true => simp
    | false =>
      simp only [Bool.false_eq_true, if_false]
      cases hindex : store.indices.get? target with
      | none =>
        have hmissing : store.indices.contains target = false := by rw [Table.contains, hindex]; rfl
        simp only [ItemResult.mk.injEq, Except.ok.injEq, reduceCtorEq, and_false, false_iff]
        rintro ⟨rfl, -, h⟩
        rw [hmissing] at h
        cases h
      | some index =>
        have hfound : store.indices.contains target = true := by rw [Table.contains, hindex]; rfl
        simp only [ItemResult.mk.injEq, Except.ok.injEq, and_true, true_and]
        constructor
        · rintro rfl
          exact ⟨rfl, hfound⟩
        · exact And.left

theorem itemResult_id (store : Store) (item : BulkItem) : (store.itemResult item).id = item.id := by
  rw [itemResult, writeItem]
  repeat' split
  all_goals rfl

/-- An item that is not told to fail lands in the index it is written to. -/
theorem Lands.of_failure_eq_none (h : (store.itemResult item).failure = none) :
    store.Lands (store.itemResult item).index item := by
  rw [Lands, ← store.itemResult_id item, ← h]

/-- What is seen in an index depends on that index only. -/
theorem document?_of_get?_eq {after : Store}
    (h : after.indices.get? name = store.indices.get? name) :
    after.document? name id = store.document? name id := by
  rw [document?, document?, h]

/-! ## Writing the items in order -/

/-- The documents of an index after one more item. -/
def putItem (store : Store) (name : String) (documents : Table Document) (item : BulkItem) :
    Table Document :=
  if store.Lands name item then documents.insert item.id item.document else documents

/-- The last item of an id that lands in an index. -/
def lastLanding (store : Store) (name id : String) (items : List BulkItem) : Option BulkItem :=
  items.reverse.find? fun item => item.id = id ∧ store.Lands name item

/-- An item that lands is the last one of its id if no later one lands there. -/
theorem lastLanding_eq_some {older newer : List BulkItem} (hlands : store.Lands name item)
    (hlast : ∀ later ∈ newer, ¬(later.id = item.id ∧ store.Lands name later)) :
    store.lastLanding name item.id (older ++ item :: newer) = some item := by
  have hnewer : newer.reverse.find? (fun later => later.id = item.id ∧ store.Lands name later) =
      none :=
    List.find?_eq_none.mpr fun later hlater => by
      simpa using hlast later (List.mem_reverse.mp hlater)
  rw [lastLanding, List.reverse_append, List.reverse_cons, List.append_assoc, List.find?_append,
    hnewer, Option.none_or, List.singleton_append, List.find?_cons_of_pos (by simpa using hlands)]

theorem lastLanding_eq_none (h : ∀ item ∈ items, ¬(item.id = id ∧ store.Lands name item)) :
    store.lastLanding name id items = none :=
  List.find?_eq_none.mpr fun item hitem => by simpa using h item (List.mem_reverse.mp hitem)

/-- **The last item of an id counts**, and without one the document is the one before. -/
theorem get?_putItems (store : Store) (name id : String) (items : List BulkItem)
    (documents : Table Document) :
    (items.foldl (store.putItem name) documents).get? id =
      ((store.lastLanding name id items).map BulkItem.document).or (documents.get? id) := by
  induction items generalizing documents with
  | nil => rfl
  | cons item items ih =>
    rw [List.foldl_cons, ih, lastLanding, lastLanding, List.reverse_cons, List.find?_append,
      Option.map_or, Option.or_assoc]
    congr 1
    rw [putItem]
    by_cases hlands : store.Lands name item
    · by_cases hid : item.id = id
      · simp [hlands, hid]
      · simp [hlands, hid, Ne.symm hid]
    · simp [hlands]

/-- The indices of two tables have the same names. -/
def SameNames (indices indices' : Table Index) : Prop :=
  ∀ name, indices.contains name = indices'.contains name

theorem sameNames_of_get?_eq_map {indices indices' : Table Index} {f : String → Index → Index}
    (h : ∀ name, indices.get? name = (indices'.get? name).map (f name)) :
    SameNames indices indices' := by
  intro name
  rw [Table.contains, Table.contains, h, Option.isSome_map]

/-- The outcome of an item depends on the indices by their names only. -/
theorem writeItem_fst (h : SameNames indices store.indices) (item : BulkItem) :
    (writeItem store.aliases store.faults indices item).1 = store.itemResult item := by
  rw [itemResult, writeItem, writeItem]
  split
  · rfl
  · rename_i target _
    split
    · rfl
    · have hname := h target
      rw [Table.contains, Table.contains] at hname
      cases hindex : indices.get? target <;> cases hindex' : store.indices.get? target <;>
        simp_all

/-- An item changes the documents of the index in which it lands and nothing else. -/
theorem get?_writeItem (h : SameNames indices store.indices) (item : BulkItem) (name : String) :
    (writeItem store.aliases store.faults indices item).2.get? name =
      (indices.get? name).map fun index =>
        { index with documents := store.putItem name index.documents item } := by
  have hresult := writeItem_fst h item
  have hlands : store.Lands name item ↔ (writeItem store.aliases store.faults indices item).1 =
      { index := name, id := item.id, failure := none } := by
    rw [hresult, Lands]
  simp only [putItem, hlands]
  rw [writeItem]
  split
  · simp
  · rename_i target _
    split
    · simp
    · cases hindex : indices.get? target with
      | none => simp
      | some index =>
        simp only [Table.get?_insert, ItemResult.mk.injEq, and_true]
        by_cases hname : name = target
        · subst hname
          simp [hindex, BulkItem.document]
        · simp [hname, Ne.symm hname]

/-- The items of a list change each index by those that land in it. -/
theorem writeItems_spec (items : List BulkItem) :
    ∀ {indices : Table Index}, SameNames indices store.indices →
      (writeItems store.aliases store.faults indices items).1 = items.map store.itemResult ∧
        ∀ name, (writeItems store.aliases store.faults indices items).2.get? name =
          (indices.get? name).map fun index =>
            { index with documents := items.foldl (store.putItem name) index.documents } := by
  induction items with
  | nil =>
    intro indices _
    refine ⟨rfl, fun name => ?_⟩
    cases hindex : indices.get? name <;> simp [writeItems, hindex]
  | cons item items ih =>
    intro indices h
    -- no item changes the names, so the rest is resolved as it would be in the store itself
    have hitem := get?_writeItem h item
    have hnames : SameNames (writeItem store.aliases store.faults indices item).2 store.indices :=
      fun name => (sameNames_of_get?_eq_map hitem name).trans (h name)
    obtain ⟨hresults, hindices⟩ := ih hnames
    rw [writeItems]
    refine ⟨?_, fun name => ?_⟩
    · show _ :: _ = _
      rw [hresults, writeItem_fst h, List.map_cons]
    · refine (hindices name).trans ?_
      rw [hitem, Option.map_map]
      rfl

/-! ## Reclaiming -/

/-- Reclaiming drops the documents whose lifetime is over from the indices that were written to. -/
theorem get?_reclaim (results : List ItemResult) (indices : Table Index) (name : String) :
    (reclaim results indices).get? name =
      (indices.get? name).map fun index =>
        if ∃ result ∈ results, result.failure = none ∧ result.index = name then
          { index with documents := index.visible }
        else index := by
  rw [reclaim]
  induction results generalizing indices with
  | nil => simp
  | cons result results ih =>
    rw [List.foldl_cons, ih]
    by_cases hresult : result.failure = none ∧ result.index = name
    · obtain ⟨hfailure, rfl⟩ := hresult
      rw [if_pos (by simp [hfailure]), Table.get?_modify, if_pos rfl, Option.map_map]
      congr 1
      funext index
      -- an index may be written to by several items and is reclaimed once for each
      have hvisible : Index.visible { index with documents := index.visible } = index.visible := by
        apply Table.ext_get?
        intro key
        rw [Index.visible, Index.visible, Table.get?_filter, Table.get?_filter,
          Option.filter_filter]
        simp
      simp [hfailure, hvisible]
    · have hindex : (if result.failure.isNone then
          indices.modify result.index fun index => { index with documents := index.visible }
          else indices).get? name = indices.get? name := by
        split
        · rename_i hfailure
          rw [Table.get?_modify, if_neg]
          exact fun hname => hresult ⟨by simpa using hfailure, hname.symm⟩
        · rfl
      rw [hindex]
      simp only [List.mem_cons, exists_eq_or_imp, hresult, false_or]

/-! ## The request as a whole -/

/-- The indices after the items of a request. -/
def afterItems (store : Store) (items : List BulkItem) : Table Index :=
  reclaim (items.map store.itemResult)
    (writeItems store.aliases store.faults store.indices items).2

/-- **Each index gets the documents of the items that land in it.** Where one lands, the documents
whose lifetime is over are dropped. -/
theorem get?_afterItems (store : Store) (items : List BulkItem) (name : String) :
    (store.afterItems items).get? name = (store.indices.get? name).map fun index =>
      let documents := items.foldl (store.putItem name) index.documents
      if ∃ item ∈ items, store.Lands name item then
        { index with documents := documents.filter fun _ => Document.isLive }
      else { index with documents } := by
  have hlanded : (∃ result ∈ items.map store.itemResult,
      result.failure = none ∧ result.index = name) ↔ ∃ item ∈ items, store.Lands name item := by
    constructor
    · rintro ⟨result, hresult, hfailure, rfl⟩
      obtain ⟨item, hitem, rfl⟩ := List.mem_map.mp hresult
      exact ⟨item, hitem, .of_failure_eq_none hfailure⟩
    · rintro ⟨item, hitem, hlands⟩
      rw [Lands] at hlands
      exact ⟨_, List.mem_map_of_mem hitem, by rw [hlands], by rw [hlands]⟩
  rw [afterItems, get?_reclaim, (writeItems_spec items fun _ => rfl).2, Option.map_map]
  simp only [hlanded]
  rfl

/-- An index in which no item lands stays as it is. -/
theorem get?_afterItems_of_forall (h : ∀ item ∈ items, ¬ store.Lands name item) :
    (store.afterItems items).get? name = store.indices.get? name := by
  have hput : ∀ documents, items.foldl (store.putItem name) documents = documents := by
    intro documents
    induction items with
    | nil => rfl
    | cons item items ih =>
      rw [List.foldl_cons, putItem, if_neg (h item (List.mem_cons_self ..))]
      exact ih fun item hitem => h item (List.mem_cons_of_mem _ hitem)
  have hnone : ¬ ∃ item ∈ items, store.Lands name item := fun ⟨item, hitem, hlands⟩ =>
    h item hitem hlands
  rw [get?_afterItems]
  simp only [hput, hnone, if_false]
  exact Option.map_id'

/-- An item that lands nowhere might as well not be there. -/
theorem afterItems_eraseIdx {k : Nat} (hitem : items[k]? = some item)
    (hlands : ∀ name, ¬ store.Lands name item) :
    store.afterItems (items.eraseIdx k) = store.afterItems items := by
  have hput : ∀ name documents, (items.eraseIdx k).foldl (store.putItem name) documents =
      items.foldl (store.putItem name) documents := by
    intro name
    induction items generalizing k with
    | nil => exact fun _ => rfl
    | cons first items ih =>
      intro documents
      cases k with
      | zero =>
        cases hitem
        rw [List.eraseIdx_cons_zero, List.foldl_cons, putItem, if_neg (hlands name)]
      | succ k =>
        rw [List.eraseIdx_cons_succ, List.foldl_cons, List.foldl_cons]
        exact ih hitem _
  have hlanded : ∀ name, (∃ other ∈ items.eraseIdx k, store.Lands name other) ↔
      ∃ other ∈ items, store.Lands name other := by
    intro name
    constructor
    · rintro ⟨other, hother, hlanded⟩
      exact ⟨other, List.mem_of_mem_eraseIdx hother, hlanded⟩
    · rintro ⟨other, hother, hlanded⟩
      obtain ⟨j, hj⟩ := List.mem_iff_getElem?.mp hother
      refine ⟨other, List.mem_eraseIdx_iff_getElem?.mpr ⟨j, ?_, hj⟩, hlanded⟩
      rintro rfl
      rw [hitem] at hj
      cases hj
      exact hlands name hlanded
  apply Table.ext_get?
  intro name
  simp only [get?_afterItems, hput, hlanded]

/-- A request creates no index and removes none, and changes documents only. -/
theorem sameNames_afterItems (store : Store) (items : List BulkItem) :
    SameNames (store.afterItems items) store.indices :=
  sameNames_of_get?_eq_map (get?_afterItems store items)

/-- **The last item of an id that lands in an index decides which document is seen there**; without
one the document is the one before. -/
theorem document?_afterItems (store : Store) (items : List BulkItem) (name id : String) :
    { store with indices := store.afterItems items }.document? name id =
      match store.lastLanding name id items with
      | some item => (some item.document).filter Document.isLive
      | none => store.document? name id := by
  rw [document?, get?_afterItems, Option.bind_map]
  have hvisible : ∀ index : Index,
      ((if ∃ item ∈ items, store.Lands name item then
          { index with
            documents := (items.foldl (store.putItem name) index.documents).filter fun _ =>
              Document.isLive }
        else { index with documents := items.foldl (store.putItem name) index.documents }
        : Index).visible).get? id =
      (((store.lastLanding name id items).map BulkItem.document).or
        (index.documents.get? id)).filter Document.isLive := by
    intro index
    rw [← get?_putItems]
    split <;> simp [Index.visible, Option.filter_filter]
  cases hlast : store.lastLanding name id items with
  | none =>
    rw [document?]
    congr 1
    funext index
    refine (hvisible index).trans ?_
    simp [hlast, Index.visible]
  | some item =>
    have hlands : store.Lands name item := by
      have hfound := List.find?_some hlast
      exact (of_decide_eq_true hfound).2
    obtain ⟨index, hindex⟩ := Table.contains_eq_true_iff.mp (lands_iff.mp hlands).2.2
    rw [hindex, Option.bind_some]
    refine (hvisible index).trans ?_
    rw [hlast]
    rfl

/-- The store after a request. -/
def afterBulk (store : Store) (request : BulkRequest) : Store :=
  { store with
    indices := store.afterItems request.items
    trace := record store.trace
      { items := request.items.length, consistency := request.consistency,
        replication := request.replication } }

theorem document?_afterBulk (store : Store) (request : BulkRequest) (name id : String) :
    (store.afterBulk request).document? name id =
      match store.lastLanding name id request.items with
      | some item => (some item.document).filter Document.isLive
      | none => store.document? name id := by
  rw [← document?_afterItems, document?, document?, afterBulk]

/-- The last item of an id that lands in an index gives the document that is seen there, unless its
lifetime is over at once. -/
theorem document?_of_last {request : BulkRequest} {older newer : List BulkItem}
    (hitems : request.items = older ++ item :: newer) (hlands : store.Lands name item)
    (hlast : ∀ later ∈ newer, ¬(later.id = item.id ∧ store.Lands name later)) :
    (store.afterBulk request).document? name item.id =
      (some item.document).filter Document.isLive := by
  rw [document?_afterBulk, hitems, lastLanding_eq_some hlands hlast]

/-- What a request comes to. -/
theorem on_bulk (request : BulkRequest) (store : Store) :
    Effect.on (bulk request) store =
      if store.faults.unavailable then (.error unreachable, store)
      else
        match request.items.find? fun item => store.faults.failingBulks.contains item.index with
        | some item =>
          (.error (.storeUnavailable ("bulk to <" ++ item.index ++ "> timed out")), store)
        | none => (.ok (request.items.map store.itemResult), store.afterBulk request) := by
  have hresults : (writeItems store.aliases store.faults store.indices request.items).1 =
      request.items.map store.itemResult := (writeItems_spec request.items fun _ => rfl).1
  simp only [bulk, Effect.on_bind, Effect.on_get, Effect.on_lift, available, hresults]
  cases store.faults.unavailable with
  | true => rfl
  | false =>
    simp only [Bool.false_eq_true, if_false]
    cases request.items.find? fun item => store.faults.failingBulks.contains item.index <;> rfl

/-- A request is carried out if the store can be reached and is not told to fail one of its names. -/
theorem on_bulk_eq_ok_iff {after : Store} {request : BulkRequest} {results : List ItemResult} :
    Effect.on (bulk request) store = (.ok results, after) ↔
      (store.faults.unavailable = false ∧
        ∀ item ∈ request.items, store.faults.failingBulks.contains item.index = false) ∧
      results = request.items.map store.itemResult ∧ after = store.afterBulk request := by
  rw [on_bulk]
  cases store.faults.unavailable with
  | true => simp
  | false =>
    cases hfailing : request.items.find? fun item =>
        store.faults.failingBulks.contains item.index with
    | some item =>
      have hitem := List.find?_some hfailing
      have hmem := List.mem_of_find?_eq_some hfailing
      simp only [Bool.false_eq_true, if_false, Prod.mk.injEq, reduceCtorEq, false_and, true_and,
        false_iff]
      rintro ⟨haccepted, -⟩
      rw [haccepted item hmem] at hitem
      cases hitem
    | none =>
      have haccepted : ∀ item ∈ request.items,
          store.faults.failingBulks.contains item.index = false := fun item hitem =>
        Bool.eq_false_iff.mpr (List.find?_eq_none.mp hfailing item hitem)
      simp only [Bool.false_eq_true, if_false, Prod.mk.injEq, Except.ok.injEq, true_and]
      constructor
      · rintro ⟨rfl, rfl⟩
        exact ⟨haccepted, rfl, rfl⟩
      · rintro ⟨-, rfl, rfl⟩
        exact ⟨rfl, rfl⟩

/-- A request fails as a whole and changes nothing, or every item has its outcome. -/
theorem bulk_cases (request : BulkRequest) (store : Store) :
    (∃ e, Effect.on (bulk request) store = (.error e, store)) ∨
      Effect.on (bulk request) store =
        (.ok (request.items.map store.itemResult), store.afterBulk request) := by
  rw [on_bulk]
  split
  · exact .inl ⟨_, rfl⟩
  · split
    · exact .inl ⟨_, rfl⟩
    · exact .inr rfl

/-- **What a request comes to** depends on the outcomes of its items: two stores that fail alike and
in which every item has the same outcome answer it alike, and it writes the same to an index that is
the same in both. -/
theorem bulk_congr {after : Store} {request : BulkRequest} (hfaults : after.faults = store.faults)
    (hresults : ∀ item ∈ request.items, after.itemResult item = store.itemResult item) :
    (Effect.on (bulk request) after).1 = (Effect.on (bulk request) store).1 ∧
      ∀ {name : String}, after.indices.get? name = store.indices.get? name →
        (Effect.on (bulk request) after).2.indices.get? name =
          (Effect.on (bulk request) store).2.indices.get? name := by
  have hlands : ∀ {name : String}, ∀ item ∈ request.items,
      (after.Lands name item ↔ store.Lands name item) := by
    intro name item hitem
    rw [Lands, Lands, hresults item hitem]
  rw [on_bulk, on_bulk, hfaults]
  split
  · exact ⟨rfl, fun h => h⟩
  · split
    · exact ⟨rfl, fun h => h⟩
    · refine ⟨congrArg Except.ok (List.map_congr_left hresults), fun {name} h => ?_⟩
      have hput : ∀ documents, request.items.foldl (after.putItem name) documents =
          request.items.foldl (store.putItem name) documents := fun documents =>
        List.foldl_ext _ _ documents fun _ item hitem => by
          rw [putItem, putItem, if_congr (hlands item hitem) rfl rfl]
      have hlanded : (∃ item ∈ request.items, after.Lands name item) ↔
          ∃ item ∈ request.items, store.Lands name item :=
        exists_congr fun item => and_congr_right (hlands item)
      show (after.afterItems _).get? name = (store.afterItems _).get? name
      simp only [get?_afterItems, h, hput, hlanded]

/-- A request leaves the aliases, the faults and the names of the indices as they are. -/
theorem bulk_frame (request : BulkRequest) (store : Store) :
    (Effect.on (bulk request) store).2.aliases = store.aliases ∧
      (Effect.on (bulk request) store).2.faults = store.faults ∧
      SameNames (Effect.on (bulk request) store).2.indices store.indices := by
  rcases bulk_cases request store with ⟨e, h⟩ | h
  · rw [h]
    exact ⟨rfl, rfl, fun _ => rfl⟩
  · rw [h]
    exact ⟨rfl, rfl, sameNames_afterItems store request.items⟩

/-- No index comes or goes in a request, and of each nothing but the documents changes. -/
theorem exists_documents_bulk (request : BulkRequest) (store : Store) (name : String) :
    ∃ documents, (Effect.on (bulk request) store).2.indices.get? name =
      (store.indices.get? name).map fun index => { index with documents } := by
  cases hindex : store.indices.get? name with
  | none =>
    have hnames := (bulk_frame request store).2.2 name
    rw [contains_eq_false_iff.mpr hindex] at hnames
    exact ⟨∅, contains_eq_false_iff.mp hnames⟩
  | some index =>
    rcases bulk_cases request store with ⟨e, hfailed⟩ | hwritten
    · rw [hfailed]
      exact ⟨index.documents, hindex⟩
    · rw [hwritten, afterBulk, get?_afterItems, hindex, Option.map_some]
      dsimp only
      split <;> exact ⟨_, rfl⟩

/-- A request changes nothing about what comes of an item. -/
theorem itemResult_bulk (request : BulkRequest) (store : Store) (item : BulkItem) :
    (Effect.on (bulk request) store).2.itemResult item = store.itemResult item := by
  obtain ⟨haliases, hfaults, hnames⟩ := bulk_frame request store
  rw [itemResult, haliases, hfaults, writeItem_fst hnames]

theorem lands_bulk {request : BulkRequest} :
    (Effect.on (bulk request) store).2.Lands name item ↔ store.Lands name item := by
  rw [Lands, Lands, itemResult_bulk]

/-- A request leaves an index in which no item lands as it is. -/
theorem get?_bulk_of_forall {request : BulkRequest}
    (h : ∀ item ∈ request.items, ¬ store.Lands name item) :
    (Effect.on (bulk request) store).2.indices.get? name = store.indices.get? name := by
  rcases bulk_cases request store with ⟨e, hfailed⟩ | hwritten
  · rw [hfailed]
  · rw [hwritten]
    exact get?_afterItems_of_forall h

end Store

end RollingIndex
