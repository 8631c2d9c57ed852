import Mathlib.Data.List.InsertIdx
import RollingIndex.Proofs.Ages
import RollingIndex.Proofs.CompleteListings
import RollingIndex.Proofs.SharedStores

/-!
# What a bulk request means

Writing the items of a request one after the other, with the aliases resolved in between and the
documents whose lifetime is over dropped at the end, comes to something that can be said without any
of this. **A bulk request that is carried out** (`Store.written_of_bulk`) answers for each item by
itself whether it fails (`Store.Fails`), and of the items that do not fail the last one that is
written to an index under an id (`Store.Writes`) decides which document is seen there. All else is
as it was.

That the name of an item always leads somewhere, or to several indices, is the one thing here that
is not true of every store: in a store that can be reached no alias is bound to nothing.
-/

namespace RollingIndex

namespace Store

variable {store after : Store} {request : BulkRequest} {results : List ItemResult}
  {item : BulkItem} {items : List BulkItem} {name index id : String}

/-! ## Names, failures and writes -/

/-- The name in a request resolved: that of the one index that an alias is bound to, and otherwise
the name itself. -/
def resolved (store : Store) (name : String) : String :=
  match store.aliases.targets name with
  | [only] => only
  | _ => name

/-- An item fails, for one of three reasons. The store refuses documents by the name in the request,
and an index is missing by the name resolved. -/
inductive Fails (store : Store) (item : BulkItem) : Prop where
  /-- the name is an alias that is bound to several indices -/
  | several : 2 ≤ (store.aliases.targets item.index).length → Fails store item
  /-- the store refuses the document -/
  | rejected : (item.index, item.id) ∈ store.faults.rejectedDocuments → Fails store item
  /-- there is no such index -/
  | missing : store.indices.contains (store.resolved item.index) = false → Fails store item

/-- An item that does not fail writes to an index under an id. -/
structure Writes (store : Store) (index id : String) (item : BulkItem) : Prop where
  /-- the name leads to the index -/
  resolved : store.resolved item.index = index
  /-- the id is the one of the item -/
  id : item.id = id
  /-- the item does not fail -/
  succeeds : ¬ store.Fails item

/-- In a store whose parts fit together a name leads to the index that it resolves to, unless it is
an alias of several. -/
theorem Consistent.writeTarget_eq (h : store.Consistent) (name : String) :
    store.aliases.writeTarget name =
      if 2 ≤ (store.aliases.targets name).length then .error (.severalIndices name)
      else .ok (store.resolved name) := by
  rw [resolved]
  rcases htargets : store.aliases.targets name with _ | ⟨only, _ | ⟨other, rest⟩⟩
  · rw [AliasTable.targets] at htargets
    rw [AliasTable.writeTarget]
    cases hbound : store.aliases.get? name with
    | none => rfl
    | some bound =>
      rw [hbound] at htargets
      exact absurd htargets (h.bound hbound)
  · exact AliasTable.writeTarget_of_targets htargets
  · rw [if_pos (by simp)]
    exact AliasTable.writeTarget_of_several (by simp [htargets])

/-- The outcome of an item names the index that the name of the item resolves to. -/
theorem Consistent.itemResult_index (h : store.Consistent) (item : BulkItem) :
    (store.itemResult item).index = store.resolved item.index := by
  rw [itemResult, writeItem, h.writeTarget_eq]
  split
  · rename_i htarget
    split at htarget
    · rename_i hseveral
      -- an alias of several indices resolves to itself
      rw [resolved]
      split
      · rename_i htargets
        rw [htargets] at hseveral
        simp at hseveral
      · rfl
    · cases htarget
  · rename_i htarget
    split at htarget
    · cases htarget
    · cases htarget
      split
      · rfl
      · split <;> rfl

/-- **An item fails for one of the three reasons**, and for no other. -/
theorem Consistent.failure_isSome_iff (h : store.Consistent) (item : BulkItem) :
    (store.itemResult item).failure.isSome = true ↔ store.Fails item := by
  rw [itemResult, writeItem, h.writeTarget_eq]
  by_cases hseveral : 2 ≤ (store.aliases.targets item.index).length
  · rw [if_pos hseveral]
    exact ⟨fun _ => .several hseveral, fun _ => rfl⟩
  · rw [if_neg hseveral]
    dsimp only
    by_cases hrejected : store.faults.rejectedDocuments.contains (item.index, item.id) = true
    · rw [if_pos hrejected]
      exact ⟨fun _ => .rejected (List.contains_iff_mem.mp hrejected), fun _ => rfl⟩
    · rw [if_neg hrejected]
      cases hindex : store.indices.get? (store.resolved item.index) with
      | none => exact ⟨fun _ => .missing (contains_eq_false_iff.mpr hindex), fun _ => rfl⟩
      | some found =>
        refine ⟨fun hfailed => absurd hfailed Bool.false_ne_true, fun hfails => ?_⟩
        cases hfails with
        | several hmany => exact absurd hmany hseveral
        | rejected hmem => exact absurd (List.contains_iff_mem.mpr hmem) hrejected
        | missing hmissing =>
          rw [contains_eq_false_iff, hindex] at hmissing
          cases hmissing

/-- An item lands where it writes. -/
theorem Consistent.writes_iff (h : store.Consistent) :
    store.Writes index id item ↔ item.id = id ∧ store.Lands index item := by
  have hfails := h.failure_isSome_iff item
  constructor
  · rintro ⟨rfl, hid, hsucceeds⟩
    refine ⟨hid, ?_⟩
    have hnone : (store.itemResult item).failure = none := by
      rw [← hfails, Bool.not_eq_true, Option.isSome_eq_false_iff, Option.isNone_iff_eq_none]
        at hsucceeds
      exact hsucceeds
    have hlands := Lands.of_failure_eq_none hnone
    rwa [h.itemResult_index] at hlands
  · rintro ⟨hid, hlands⟩
    rw [Lands] at hlands
    refine ⟨?_, hid, ?_⟩
    · rw [← h.itemResult_index, hlands]
    · rw [← hfails, hlands]
      exact Bool.false_ne_true

/-! ## Requests -/

/-- What a request has come to that was carried out. -/
structure Written (store : Store) (request : BulkRequest) (results : List ItemResult)
    (after : Store) : Prop where
  /-- there is one result for each item, in order, with the id of the item -/
  ids : results.map (·.id) = request.items.map (·.id)
  /-- it names the index that the item is for, and says whether the item failed -/
  fails : ∀ {k : Nat} {item : BulkItem} {result : ItemResult}, request.items[k]? = some item →
    results[k]? = some result →
      result.index = store.resolved item.index ∧
        (result.failure.isSome = true ↔ store.Fails item)
  /-- without an item that fails, the request comes to the same for all others -/
  unaffected : ∀ {k : Nat} {item : BulkItem}, request.items[k]? = some item → store.Fails item →
    ∃ trace, Effect.on (bulk { request with items := request.items.eraseIdx k }) store =
      (.ok (results.eraseIdx k), { after with trace })
  /-- the last item that writes to an index under an id decides which document is seen -/
  last : ∀ {index id : String} {older newer : List BulkItem} {item : BulkItem},
    request.items = older ++ item :: newer → store.Writes index id item →
      (∀ later ∈ newer, ¬ store.Writes index id later) →
        after.document? index id =
          if item.ttlMinutes = some 0 then none
          else some { source := item.source, ttlMinutes := item.ttlMinutes }
  /-- if no item does, the document is the one before -/
  old : ∀ {index id : String}, (∀ item ∈ request.items, ¬ store.Writes index id item) →
    after.document? index id = store.document? index id
  /-- indices keep everything but documents; none comes or goes -/
  indices : ∀ index, ∃ documents, after.indices.get? index =
    (store.indices.get? index).map fun found => { found with documents }
  /-- an index that no item writes to is as it was -/
  untouched : ∀ {index : String}, (∀ item ∈ request.items, ∀ id, ¬ store.Writes index id item) →
    after.indices.get? index = store.indices.get? index
  /-- nothing else has changed but the record of bulk requests -/
  rest : after.aliases = store.aliases ∧ after.nextOrder = store.nextOrder ∧
    after.nodes = store.nodes ∧ after.faults = store.faults
  /-- the number of documents of an index is the number of ids under which one is seen -/
  counts : ∀ {pattern index : String} {listed : Table IndexStats} {stats : IndexStats},
    after.stats pattern = .ok listed → listed.get? index = some stats →
      ∃ ids : List String, ids.Nodup ∧ (∀ id, id ∈ ids ↔ (after.document? index id).isSome = true) ∧
        stats.primaryDocs = ids.length

/-- The documents that are seen in an index are those of some ids, and their number is the one in the
statistics. -/
theorem primaryDocs_eq {pattern : String} {listed : Table IndexStats} {stats : IndexStats}
    (hlisted : store.stats pattern = .ok listed) (hstats : listed.get? index = some stats) :
    ∃ ids : List String, ids.Nodup ∧ (∀ id, id ∈ ids ↔ (store.document? index id).isSome = true) ∧
      stats.primaryDocs = ids.length := by
  obtain ⟨-, rfl⟩ := stats_eq_ok_iff.mp hlisted
  rw [← listing, get?_listing] at hstats
  split at hstats
  · obtain ⟨found, hfound, rfl⟩ := Option.map_eq_some_iff.mp hstats
    refine ⟨found.visible.keys, found.visible.nodup_keys, fun id => ?_, (List.length_map _).symm⟩
    rw [document?, hfound, Table.mem_keys_iff, Option.isSome_iff_exists]
    rfl
  · cases hstats

/-- **What a bulk request means.** On every store that can be reached, a request that is carried out
answers for each item by itself, and the last item that writes to an index under an id decides which
document is seen there. Nothing else changes. -/
theorem written_of_bulk (hreachable : store.Reachable)
    (h : Effect.on (bulk request) store = (.ok results, after)) :
    store.Written request results after := by
  have hconsistent := hreachable.consistent
  obtain ⟨⟨hreached, haccepted⟩, rfl, rfl⟩ := on_bulk_eq_ok_iff.mp h
  exact
    { ids := by
        rw [List.map_map]
        exact List.map_congr_left fun item _ => store.itemResult_id item
      fails := by
        intro k item result hitem hresult
        rw [List.getElem?_map, hitem] at hresult
        cases hresult
        exact ⟨hconsistent.itemResult_index item, hconsistent.failure_isSome_iff item⟩
      unaffected := by
        intro k item hitem hfails
        have hlands : ∀ name, ¬ store.Lands name item := fun name hlands =>
          (hconsistent.writes_iff.mpr ⟨rfl, hlands⟩).succeeds hfails
        refine ⟨(store.afterBulk { request with items := request.items.eraseIdx k }).trace,
          on_bulk_eq_ok_iff.mpr ⟨⟨hreached, fun other hother => ?_⟩, List.eraseIdx_map .., ?_⟩⟩
        · exact haccepted other (List.mem_of_mem_eraseIdx hother)
        · rw [afterBulk, afterBulk, afterItems_eraseIdx hitem hlands]
      last := by
        intro index id older newer item hitems hwrites hlast
        obtain ⟨rfl, hlands⟩ := hconsistent.writes_iff.mp hwrites
        rw [document?_of_last hitems hlands fun later hlater hlanded =>
          hlast later hlater (hconsistent.writes_iff.mpr hlanded)]
        rw [Option.filter_some, Document.isLive, BulkItem.document]
        by_cases hover : item.ttlMinutes = some 0 <;> simp [hover]
      old := by
        intro index id hnone
        rw [document?_afterBulk, lastLanding_eq_none fun item hitem hlanded =>
          hnone item hitem (hconsistent.writes_iff.mpr hlanded)]
      indices := by
        intro index
        have hdocuments := exists_documents_bulk request store index
        rwa [h] at hdocuments
      untouched := by
        intro index hnone
        exact get?_afterItems_of_forall fun item hitem hlands =>
          hnone item hitem item.id (hconsistent.writes_iff.mpr ⟨rfl, hlands⟩)
      rest := ⟨rfl, rfl, rfl, rfl⟩
      counts := primaryDocs_eq }

/-- A store with an alias of one index and an alias of two, which refuses a document under the name
of the first. -/
def aliasedStore : Store :=
  .run [.operation (.create "a_0" { shards := 1, replicas := 0 }),
    .operation (.create "b_0" { shards := 1, replicas := 0 }),
    .operation (.create "b_1" { shards := 1, replicas := 0 }),
    .operation (.updateAliases [.add "a_0" "one", .add "b_0" "two", .add "b_1" "two"]),
    .operation (.bulk { items := [{ index := "a_0", id := "x", source := .null },
      { index := "b_0", id := "x", source := .null }] }),
    .fault (.rejectDocument "one" "r")]

/-- A request with an item for each reason to fail. It writes to one id through the alias and then
directly, and to others without a lifetime to speak of. -/
def mixedRequest : BulkRequest where
  items := [{ index := "one", id := "x", source := .int 1 },
    { index := "two", id := "x", source := .int 2 },
    { index := "one", id := "r", source := .int 3 },
    { index := "a_0", id := "r", source := .int 4 },
    { index := "none", id := "x", source := .int 5 },
    { index := "a_0", id := "x", source := .int 6, ttlMinutes := some 5 },
    { index := "one", id := "y", source := .int 7, ttlMinutes := some 0 }]

theorem written_of_bulk_mixed :
    (Effect.on (bulk mixedRequest) aliasedStore).1 =
        .ok [{ index := "a_0", id := "x", failure := none },
          { index := "two", id := "x", failure := some (.severalIndices "two") },
          { index := "a_0", id := "r", failure := some .rejected },
          { index := "a_0", id := "r", failure := none },
          { index := "none", id := "x", failure := some (.missingIndex "none") },
          { index := "a_0", id := "x", failure := none },
          { index := "a_0", id := "y", failure := none }] ∧
      aliasedStore.Written mixedRequest (mixedRequest.items.map aliasedStore.itemResult)
        (Effect.on (bulk mixedRequest) aliasedStore).2 ∧
      (Effect.on (bulk mixedRequest) aliasedStore).2.document? "a_0" "x" =
        some { source := .int 6, ttlMinutes := some 5 } ∧
      (Effect.on (bulk mixedRequest) aliasedStore).2.document? "a_0" "y" = none := by
  have hresults : (Effect.on (bulk mixedRequest) aliasedStore).1 =
      .ok (mixedRequest.items.map aliasedStore.itemResult) := rfl
  have hwritten := written_of_bulk (.run _) (Prod.ext hresults rfl)
  exact ⟨rfl, hwritten, rfl, rfl⟩

end Store

end RollingIndex
