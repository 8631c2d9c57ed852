import Mathlib.Data.List.Nodup
import RollingIndex.Proofs.SharedStores
import RollingIndex.Proofs.Totals

/-!
# The documents that a store holds

What a store holds of documents can be looked at in two ways: document by document, as they are seen
under an id in an index, or in numbers, as statistics and deletions count them. In a store that can
be reached the two agree:

* **no document is kept whose lifetime is over** (`Store.Reachable.live`), since every bulk request
  rids the indices that it writes to of such documents, and so all that is stored is seen;
* **there are as many documents as places where one is seen** (`Store.length_places`), and where
  documents are only taken away, as many are missing as places are lost (`Store.exists_lost`).
-/

namespace RollingIndex

namespace Store

variable {store after : Store} {name id : String}

/-! ## Every document is seen -/

/-- No document is kept whose lifetime is over. -/
def Live (store : Store) : Prop :=
  ∀ (name id : String) (index : Index) (document : Document),
    store.indices.get? name = some index → index.documents.get? id = some document →
      document.isLive = true

namespace Live

theorem visible_eq (h : store.Live) {index : Index}
    (hindex : store.indices.get? name = some index) : index.visible = index.documents := by
  apply Table.ext_get?
  intro id
  rw [Index.visible, Table.get?_filter]
  cases hdocument : index.documents.get? id with
  | none => rfl
  | some document => simp [h name id index document hindex hdocument]

/-- A change that writes no document. -/
theorem of_kept (h : store.Live)
    (hkept : ∀ {name index}, after.indices.get? name = some index →
      index.documents = ∅ ∨ ∃ before, store.indices.get? name = some before ∧
        ∀ {id document}, index.documents.get? id = some document →
          before.documents.get? id = some document) : after.Live := by
  intro name id index document hindex hdocument
  rcases hkept hindex with hnone | ⟨before, hbefore, hdocuments⟩
  · rw [hnone] at hdocument
    cases hdocument
  · exact h name id before document hbefore (hdocuments hdocument)

theorem withIndex (h : store.Live) {settings : IndexSettings} {mapping : Option Json} :
    (store.withIndex name settings mapping).Live := by
  refine h.of_kept fun {other index} hindex => ?_
  rw [Store.withIndex, Table.get?_insert] at hindex
  split at hindex
  · cases hindex
    exact .inl rfl
  · exact .inr ⟨index, hindex, fun hdocument => hdocument⟩

theorem withoutIndex (h : store.Live) (name : String) : (store.withoutIndex name).Live := by
  refine h.of_kept fun {other index} hindex => ?_
  rw [Store.withoutIndex, Table.get?_erase] at hindex
  split at hindex
  · cases hindex
  · exact .inr ⟨index, hindex, fun hdocument => hdocument⟩

theorem withoutIndices (h : store.Live) (names : List String) :
    (store.withoutIndices names).Live := by
  induction names generalizing store with
  | nil => exact h
  | cons name names ih => exact ih (h.withoutIndex name)

theorem afterPurge (h : store.Live) (names : List String) (field : String) (first last : Int) :
    Live { store with indices := store.afterPurge names field first last } := by
  refine h.of_kept fun {name index} hindex => .inr ?_
  obtain ⟨before, hbefore, rfl⟩ :=
    Option.map_eq_some_iff.mp ((get?_afterPurge ..).symm.trans hindex)
  refine ⟨before, hbefore, fun {id document} hdocument => ?_⟩
  split at hdocument
  · rw [Index.purged, Table.get?_filter, Option.filter_eq_some_iff] at hdocument
    exact hdocument.1
  · exact hdocument

/-- An index that is written to is rid of what is over. -/
theorem afterBulk (h : store.Live) (request : BulkRequest) : (store.afterBulk request).Live := by
  intro name id index document hindex hdocument
  by_cases hlands : ∃ item ∈ request.items, store.Lands name item
  · obtain ⟨before, -, rfl⟩ :=
      Option.map_eq_some_iff.mp ((get?_afterItems ..).symm.trans hindex)
    rw [if_pos hlands, Table.get?_filter, Option.filter_eq_some_iff] at hdocument
    exact hdocument.2
  · rw [Store.afterBulk, get?_afterItems_of_forall fun item hitem hlanded =>
      hlands ⟨item, hitem, hlanded⟩] at hindex
    exact h name id index document hindex hdocument

theorem bulk (h : store.Live) (request : BulkRequest) :
    (Effect.on (Store.bulk request) store).2.Live := by
  rcases bulk_cases request store with ⟨e, hfailed⟩ | hwritten
  · rw [hfailed]
    exact h
  · rw [hwritten]
    exact h.afterBulk request

theorem step (h : store.Live) (event : StoreEvent) : (store.step event).Live := by
  have hstep := step_spec store event
  generalize store.step event = after at hstep
  cases hstep with
  | kept => exact h
  | switched => exact h
  | created => exact h.withIndex
  | mapped name mapping =>
    refine h.of_kept fun {other index} hindex => .inr ?_
    rw [Table.get?_modify] at hindex
    split at hindex
    · obtain ⟨before, hbefore, rfl⟩ := Option.map_eq_some_iff.mp hindex
      exact ⟨before, hbefore, fun hdocument => hdocument⟩
    · exact ⟨index, hindex, fun hdocument => hdocument⟩
  | deleted name => exact h.withoutIndex name
  | realiased => exact h
  | written request => exact h.afterBulk request
  | purged names field first last => exact h.afterPurge names field first last

theorem transition (h : store.Live) {d : Deployment} {operation : Operation}
    {result : Except Failure Answer} (htransition : d.Transition store operation result after) :
    after.Live := by
  cases htransition with
  | kept => exact h
  | rotated _ result _ _ hrotation =>
    cases hrotation with
    | refused => exact h
    | stranded => exact h.withIndex
    | moved old names => exact h.withIndex
  | created => exact h.withIndex
  | wrote records => exact (h.bulk (d.mainRequest records)).bulk (d.recentRequest records)
  | purged upTo names => exact h.afterPurge names createdAtField 0 upTo
  | swept report => exact h.withoutIndices report.deleted

end Live

/-- **No document is kept whose lifetime is over.** -/
theorem Reachable.live (h : store.Reachable) : store.Live := by
  induction h with
  | empty => exact fun _ _ _ _ h => by cases h
  | step event _ ih => exact ih.step event
  | addNode _ _ _ ih => exact ih
  | perform d operation _ ih => exact ih.transition (d.perform_transition operation _)

/-! ## Places of documents -/

/-- The number of documents in a table of indices. -/
def documentTotal (indices : Table Index) : Nat := indices.total (·.documents.size)

/-- The places where documents are stored: the index and the id of each. -/
def places (indices : Table Index) : List (String × String) :=
  indices.entries.flatMap fun entry => entry.2.documents.keys.map fun id => (entry.1, id)

theorem mem_places {indices : Table Index} :
    (name, id) ∈ places indices ↔
      ∃ index, indices.get? name = some index ∧ id ∈ index.documents.keys := by
  simp only [places, List.mem_flatMap, List.mem_map, Prod.mk.injEq, Prod.exists,
    Table.get?_eq_some_iff]
  constructor
  · rintro ⟨_, index, hindex, _, hid, rfl, rfl⟩
    exact ⟨index, hindex, hid⟩
  · rintro ⟨index, hindex, hid⟩
    exact ⟨name, index, hindex, id, hid, rfl, rfl⟩

theorem Live.mem_places_iff (h : store.Live) :
    (name, id) ∈ places store.indices ↔
      ∃ document, store.document? name id = some document := by
  rw [mem_places, document?]
  cases hindex : store.indices.get? name with
  | none => simp
  | some index => simp [h.visible_eq hindex]

theorem nodup_places (indices : Table Index) : (places indices).Nodup := by
  refine List.nodup_flatMap.mpr ⟨fun entry _ => ?_, ?_⟩
  · exact entry.2.documents.nodup_keys.map fun _ _ h => (Prod.mk.inj h).2
  · -- places in different indices are different
    refine indices.ascending.imp fun {entry entry'} hlt => ?_
    simp only [Function.onFun, List.disjoint_left, List.mem_map]
    rintro place ⟨_, -, rfl⟩ ⟨_, -, h⟩
    exact String.lt_irrefl _ ((Prod.mk.inj h).1 ▸ hlt)

theorem length_places (indices : Table Index) :
    (places indices).length = documentTotal indices := by
  rw [documentTotal, Table.total_eq_sum, Table.values, List.map_map, places, List.length_flatMap]
  refine congrArg List.sum (List.map_congr_left fun entry _ => ?_)
  simp [Table.keys, Table.size]

/-- Where documents are only taken away, the places that are lost are as many as the documents that
are missing. -/
theorem exists_lost {indices indices' : Table Index}
    (h : ∀ place ∈ places indices', place ∈ places indices) :
    ∃ lost : List (String × String), lost.Nodup ∧
      (∀ place, place ∈ lost ↔ place ∈ places indices ∧ place ∉ places indices') ∧
        lost.length + documentTotal indices' = documentTotal indices := by
  -- the places that are kept are those that are left
  have hkept : ((places indices).filter fun place => (places indices').contains place).Perm
      (places indices') := by
    refine (List.perm_ext_iff_of_nodup ((nodup_places _).filter _) (nodup_places _)).mpr
      fun place => ?_
    rw [List.mem_filter, List.contains_iff_mem]
    exact ⟨And.right, fun hplace => ⟨h place hplace, hplace⟩⟩
  refine ⟨(places indices).filter fun place => !(places indices').contains place,
    (nodup_places _).filter _, fun place => by simp, ?_⟩
  have hsplit := List.length_eq_length_filter_add (l := places indices)
    fun place => (places indices').contains place
  rw [hkept.length_eq] at hsplit
  rw [← length_places, ← length_places]
  omega

end Store

end RollingIndex
