import RollingIndex.Proofs.Transitions

/-!
# Batches in two places

A batch is written to the alias of a deployment and to its recent index, in two requests that are
both made whatever becomes of the other. Each request may be refused as a whole
(`Store.refusal?`), and each item of it may fail. **What a batch answers is what has become of it in
the two places** (`Deployment.writeBatch_dual`): it fails if a request was refused, and otherwise it
says whether every record is in both places. What a request was to write is there, whatever became
of the other request and of other records.

This holds of every store, also of one whose parts do not fit together, for neither request changes
anything about what comes of an item (`Store.itemResult_bulk`).
-/

namespace RollingIndex

namespace Store

variable {store : Store} {name index other : String} {item : BulkItem}

/-! ## Names and refusals -/

/-- A name leads to one index, which exists: as the name of the index if it is no alias, or as an
alias of that index alone. -/
inductive LeadsTo (store : Store) (name : String) : String → Prop where
  /-- it is the name of the index -/
  | direct : store.aliases.get? name = none → store.indices.contains name = true →
      LeadsTo store name name
  /-- it is an alias of the index -/
  | aliased (index : String) : store.aliases.targets name = [index] →
      store.indices.contains index = true → LeadsTo store name index

theorem leadsTo_iff :
    store.LeadsTo name index ↔
      store.aliases.writeTarget name = .ok index ∧ store.indices.contains index = true := by
  constructor
  · intro h
    cases h with
    | direct hname hexists =>
      refine ⟨?_, hexists⟩
      rw [AliasTable.writeTarget, hname]
    | aliased _ htargets hexists => exact ⟨AliasTable.writeTarget_of_targets htargets, hexists⟩
  · rintro ⟨htarget, hexists⟩
    rw [AliasTable.writeTarget] at htarget
    cases hbound : store.aliases.get? name with
    | none =>
      rw [hbound] at htarget
      cases htarget
      exact .direct hbound hexists
    | some bound =>
      rw [hbound] at htarget
      dsimp only at htarget
      split at htarget
      · rename_i only hkeys
        cases htarget
        refine .aliased _ ?_ hexists
        rw [AliasTable.targets, hbound]
        exact hkeys
      · cases htarget
      · cases htarget

/-- A name leads to one index at most. -/
theorem LeadsTo.unique (h : store.LeadsTo name index) (h' : store.LeadsTo name other) :
    index = other := by
  have htarget := (leadsTo_iff.mp h).1
  rw [(leadsTo_iff.mp h').1] at htarget
  exact (Except.ok.inj htarget).symm

/-- An item lands where its name leads, unless the store refuses the document. -/
theorem lands_iff_leadsTo :
    store.Lands index item ↔
      store.LeadsTo item.index index ∧
        (item.index, item.id) ∉ store.faults.rejectedDocuments := by
  rw [lands_iff, leadsTo_iff, ← List.contains_iff_mem, Bool.not_eq_true]
  exact ⟨fun ⟨htarget, haccepted, hexists⟩ => ⟨⟨htarget, hexists⟩, haccepted⟩,
    fun ⟨⟨htarget, hexists⟩, haccepted⟩ => ⟨htarget, haccepted, hexists⟩⟩

/-- The name leads to one index that exists, and the store refuses none of the records under it. -/
structure TakesAll (store : Store) (name : String) (records : List Record) : Prop where
  /-- there is the index -/
  leads : ∃ index, store.LeadsTo name index
  /-- no record is refused -/
  accepts : ∀ record ∈ records, (name, record.id) ∉ store.faults.rejectedDocuments

/-- The failure of every request with an item for a name, if such requests are refused: the store
cannot be reached, or it is told to fail them. -/
def refusal? (store : Store) (name : String) : Option Failure :=
  if store.faults.unavailable then some unreachable
  else if store.faults.failingBulks.contains name then
    some (.storeUnavailable ("bulk to <" ++ name ++ "> timed out"))
  else none

/-- A request leaves it at what is refused. -/
theorem refusal?_bulk (request : BulkRequest) (store : Store) (name : String) :
    (Effect.on (bulk request) store).2.refusal? name = store.refusal? name := by
  rw [refusal?, refusal?, (bulk_frame request store).2.1]

end Store

namespace Deployment

variable {d : Deployment} {records : List Record} {store : Store} {place index : String}
  {ttl : Option Nat}

/-! ## One request of a batch -/

/-- The request to one place is refused and changes nothing, or it is carried out. -/
theorem on_bulk_batchRequest (hrecords : records ≠ []) (place : String) (ttl : Option Nat)
    (store : Store) :
    Effect.on (Store.bulk (batchRequest place ttl records)) store =
      match store.refusal? place with
      | some e => (.error e, store)
      | none =>
        (.ok ((batchRequest place ttl records).items.map store.itemResult),
          store.afterBulk (batchRequest place ttl records)) := by
  rw [Store.on_bulk, Store.refusal?]
  split
  · rfl
  · cases hfailing : store.faults.failingBulks.contains place with
    | true =>
      obtain ⟨first, rest, rfl⟩ := List.exists_cons_of_ne_nil hrecords
      have hfirst : (batchRequest place ttl (first :: rest)).items.find?
          (fun item => store.faults.failingBulks.contains item.index) =
            some { index := place, id := first.id, source := first.body, ttlMinutes := ttl } :=
        List.find?_cons_of_pos hfailing
      rw [hfirst]
      rfl
    | false =>
      have hnone : (batchRequest place ttl records).items.find?
          (fun item => store.faults.failingBulks.contains item.index) = none := by
        refine List.find?_eq_none.mpr fun item hitem => ?_
        obtain ⟨record, -, rfl⟩ := List.mem_map.mp hitem
        rw [hfailing]
        exact Bool.false_ne_true
      rw [hnone]
      rfl

theorem batchRequest_refused (hrecords : records ≠ []) (hrefused : store.refusal? place ≠ none) :
    (Effect.on (Store.bulk (batchRequest place ttl records)) store).2 = store := by
  obtain ⟨e, he⟩ := Option.ne_none_iff_exists'.mp hrefused
  rw [on_bulk_batchRequest hrecords, he]

theorem batchRequest_carried (hrecords : records ≠ []) (hcarried : store.refusal? place = none) :
    ∃ results, Effect.on (Store.bulk (batchRequest place ttl records)) store =
      (.ok results, (Effect.on (Store.bulk (batchRequest place ttl records)) store).2) := by
  rw [on_bulk_batchRequest hrecords, hcarried]
  exact ⟨_, rfl⟩

/-- Every record is written in one place if the place takes them all. -/
theorem anyFailed_batchRequest (hrecords : records ≠ []) :
    ItemResult.anyFailed ((batchRequest place ttl records).items.map store.itemResult) = false ↔
      store.TakesAll place records := by
  rw [ItemResult.anyFailed, List.any_eq_false]
  constructor
  · intro hwritten
    have hlands : ∀ record ∈ records, ∃ index, store.Lands index
        { index := place, id := record.id, source := record.body, ttlMinutes := ttl } := by
      intro record hrecord
      have hresult := hwritten _ (List.mem_map_of_mem (List.mem_map_of_mem hrecord))
      exact ⟨_, .of_failure_eq_none (by simpa using hresult)⟩
    obtain ⟨first, hfirst⟩ := List.exists_mem_of_ne_nil records hrecords
    obtain ⟨index, hindex⟩ := hlands first hfirst
    refine ⟨⟨index, (Store.lands_iff_leadsTo.mp hindex).1⟩, fun record hrecord => ?_⟩
    obtain ⟨_, hlanded⟩ := hlands record hrecord
    exact (Store.lands_iff_leadsTo.mp hlanded).2
  · rintro ⟨⟨index, hleads⟩, haccepts⟩ result hresult
    obtain ⟨item, hitem, rfl⟩ := List.mem_map.mp hresult
    obtain ⟨record, hrecord, rfl⟩ := List.mem_map.mp hitem
    have hlands : store.Lands index
        { index := place, id := record.id, source := record.body, ttlMinutes := ttl } :=
      Store.lands_iff_leadsTo.mpr ⟨hleads, haccepts record hrecord⟩
    rw [Store.Lands] at hlands
    rw [hlands]
    exact Bool.false_ne_true

/-! ## Both requests of a batch -/

/-- What a batch answers, request by request. -/
theorem answer_writeBatch (d : Deployment) (hrecords : records ≠ []) (desk : Desk) :
    (Effect.on (d.writeBatch records) desk).1 =
      match desk.store.refusal? d.naming.writeAlias,
        desk.store.refusal? d.naming.recentIndex with
      | some e, _ => .error e
      | none, some e => .error e
      | none, none =>
        .ok (!ItemResult.anyFailed ((d.mainRequest records).items.map desk.store.itemResult) &&
          !ItemResult.anyFailed ((d.recentRequest records).items.map desk.store.itemResult)) := by
  obtain ⟨after, hwrite, -⟩ := d.on_writeBatch hrecords desk
  have hmain := on_bulk_batchRequest hrecords d.naming.writeAlias none desk.store
  have hrecent := on_bulk_batchRequest hrecords d.naming.recentIndex d.recentTtl
    (d.afterMain records desk.store)
  rw [← mainRequest] at hmain
  -- the second request meets a store that refuses and resolves as the first one did
  have hrefusal : (d.afterMain records desk.store).refusal? d.naming.recentIndex =
      desk.store.refusal? d.naming.recentIndex := Store.refusal?_bulk ..
  have hresults : (d.afterMain records desk.store).itemResult = desk.store.itemResult :=
    funext fun item => Store.itemResult_bulk ..
  rw [← recentRequest, hrefusal, hresults] at hrecent
  rw [hwrite, hmain, hrecent]
  cases desk.store.refusal? d.naming.writeAlias with
  | some e => rfl
  | none => cases desk.store.refusal? d.naming.recentIndex <;> rfl

/-- The store after a batch is the one after both requests. -/
theorem store_writeBatch (d : Deployment) (hrecords : records ≠ []) (desk : Desk) :
    (Effect.on (d.writeBatch records) desk).2.store = d.afterBatch records desk.store := by
  obtain ⟨after, hwrite, hafter⟩ := d.on_writeBatch hrecords desk
  rw [hwrite, hafter]

/-- What is written to the alias stays through the request to the recent index, if the two lead to
different indices. -/
theorem document?_main (d : Deployment) {target other : String} {older newer : List Record}
    {record : Record} (hmain : store.LeadsTo d.naming.writeAlias target)
    (hrecent : store.LeadsTo d.naming.recentIndex other) (hne : target ≠ other)
    (hcarried : store.refusal? d.naming.writeAlias = none)
    (haccepted : (d.naming.writeAlias, record.id) ∉ store.faults.rejectedDocuments)
    (hlast : ∀ later ∈ newer, later.id ≠ record.id) :
    (d.afterBatch (older ++ record :: newer) store).document? target record.id =
      some { source := record.body, ttlMinutes := none } := by
  have hforeign : ∀ item ∈ (d.recentRequest (older ++ record :: newer)).items,
      ¬ (d.afterMain (older ++ record :: newer) store).Lands target item := by
    intro item hitem hlands
    obtain ⟨written, -, rfl⟩ := List.mem_map.mp hitem
    exact hne ((Store.lands_iff_leadsTo.mp (Store.lands_bulk.mp hlands)).1.unique hrecent)
  have hrecords : older ++ record :: newer ≠ [] := by simp
  have hbulk := on_bulk_batchRequest hrecords d.naming.writeAlias none store
  rw [hcarried, ← mainRequest] at hbulk
  rw [afterBatch, Store.document?_of_get?_eq (Store.get?_bulk_of_forall hforeign), afterMain, hbulk]
  exact document?_batchRequest (Store.lands_iff_leadsTo.mpr ⟨hmain, haccepted⟩) hlast

/-- What is written to the recent index is there, whatever became of the request to the alias. -/
theorem document?_recent (d : Deployment) (httl : d.recentTtl ≠ some 0) {other : String}
    {older newer : List Record} {record : Record}
    (hrecent : store.LeadsTo d.naming.recentIndex other)
    (hcarried : store.refusal? d.naming.recentIndex = none)
    (haccepted : (d.naming.recentIndex, record.id) ∉ store.faults.rejectedDocuments)
    (hlast : ∀ later ∈ newer, later.id ≠ record.id) :
    (d.afterBatch (older ++ record :: newer) store).document? other record.id =
      some { source := record.body, ttlMinutes := d.recentTtl } := by
  have hrecords : older ++ record :: newer ≠ [] := by simp
  have hbulk := on_bulk_batchRequest hrecords d.naming.recentIndex d.recentTtl
    (d.afterMain (older ++ record :: newer) store)
  have hrefusal : (d.afterMain (older ++ record :: newer) store).refusal? d.naming.recentIndex =
      none := (Store.refusal?_bulk ..).trans hcarried
  rw [hrefusal, ← recentRequest] at hbulk
  rw [afterBatch, hbulk]
  refine (document?_batchRequest
    (Store.lands_bulk.mpr (Store.lands_iff_leadsTo.mpr ⟨hrecent, haccepted⟩)) hlast).trans ?_
  rw [Option.filter_some, Document.isLive, if_pos (by simpa using httl)]

/-- What a batch has come to that was to be written to two places, to the second one with a limited
lifetime or not. -/
structure DualWritten (main recent : String) (ttl : Option Nat) (records : List Record)
    (desk : Desk) (answer : Except Failure Bool) (after : Desk) : Prop where
  /-- nothing is asked of the store for no records -/
  empty : records = [] → answer = .ok true ∧ after = desk
  /-- the batch fails if a request is refused, the one to the first place before the other -/
  fails : records ≠ [] → ∀ e, answer = .error e ↔ desk.store.refusal? main = some e ∨
    desk.store.refusal? main = none ∧ desk.store.refusal? recent = some e
  /-- otherwise it says whether both places take all records -/
  answers : records ≠ [] → ∀ success, answer = .ok success ↔
    (desk.store.refusal? main = none ∧ desk.store.refusal? recent = none) ∧
      (success = true ↔ desk.store.TakesAll main records ∧ desk.store.TakesAll recent records)
  /-- two requests that are refused change nothing -/
  neither : desk.store.refusal? main ≠ none → desk.store.refusal? recent ≠ none →
    after.store = desk.store
  /-- a request to the first place is carried out although the other is refused -/
  main_only : records ≠ [] → desk.store.refusal? main = none →
    desk.store.refusal? recent ≠ none →
      ∃ results, Effect.on (Store.bulk (batchRequest main none records)) desk.store =
        (.ok results, after.store)
  /-- a request to the second place is carried out although the other is refused -/
  recent_only : records ≠ [] → desk.store.refusal? main ≠ none →
    desk.store.refusal? recent = none →
      ∃ results, Effect.on (Store.bulk (batchRequest recent ttl records)) desk.store =
        (.ok results, after.store)
  /-- both requests are carried out if none is refused -/
  both : records ≠ [] → desk.store.refusal? main = none → desk.store.refusal? recent = none →
    ∃ results middle results',
      Effect.on (Store.bulk (batchRequest main none records)) desk.store = (.ok results, middle) ∧
        Effect.on (Store.bulk (batchRequest recent ttl records)) middle =
          (.ok results', after.store)
  /-- the last record of an id is in the first place, without a limit of lifetime, unless it was
  refused there or the whole request was -/
  in_main : ∀ {older newer : List Record} {record : Record} {target other : String},
    records = older ++ record :: newer → (∀ later ∈ newer, later.id ≠ record.id) →
      desk.store.LeadsTo main target → desk.store.LeadsTo recent other → target ≠ other →
        desk.store.refusal? main = none →
          (main, record.id) ∉ desk.store.faults.rejectedDocuments →
            after.store.document? target record.id =
              some { source := record.body, ttlMinutes := none }
  /-- the last record of an id is in the second place, with the lifetime given, unless it was
  refused there or the whole request was -/
  in_recent : ∀ {older newer : List Record} {record : Record} {target other : String},
    records = older ++ record :: newer → (∀ later ∈ newer, later.id ≠ record.id) →
      desk.store.LeadsTo main target → desk.store.LeadsTo recent other → target ≠ other →
        desk.store.refusal? recent = none →
          (recent, record.id) ∉ desk.store.faults.rejectedDocuments →
            after.store.document? other record.id =
              some { source := record.body, ttlMinutes := ttl }

/-- A deployment whose documents in the recent index do not expire at once writes batches to both
places. -/
theorem dualWritten_of_ttl (d : Deployment) (httl : d.recentTtl ≠ some 0) (records : List Record)
    (desk : Desk) :
    DualWritten d.naming.writeAlias d.naming.recentIndex d.recentTtl records desk
      (Effect.on (d.writeBatch records) desk).1 (Effect.on (d.writeBatch records) desk).2 := by
  have hempty : records = [] → (Effect.on (d.writeBatch records) desk) = (.ok true, desk) := by
    rintro rfl
    rfl
  -- what is refused of the second request is what was refused before the first
  have hrefusal : (d.afterMain records desk.store).refusal? d.naming.recentIndex =
      desk.store.refusal? d.naming.recentIndex := Store.refusal?_bulk ..
  have hunmoved : records ≠ [] → desk.store.refusal? d.naming.writeAlias ≠ none →
      d.afterMain records desk.store = desk.store := batchRequest_refused
  exact
    { empty := fun hrecords => by rw [hempty hrecords]; exact ⟨rfl, rfl⟩
      fails := by
        intro hrecords e
        rw [d.answer_writeBatch hrecords desk]
        cases desk.store.refusal? d.naming.writeAlias with
        | some _ => simp
        | none => cases desk.store.refusal? d.naming.recentIndex <;> simp
      answers := by
        intro hrecords success
        have htakes : (!ItemResult.anyFailed
              ((d.mainRequest records).items.map desk.store.itemResult) &&
            !ItemResult.anyFailed
              ((d.recentRequest records).items.map desk.store.itemResult)) = true ↔
            desk.store.TakesAll d.naming.writeAlias records ∧
              desk.store.TakesAll d.naming.recentIndex records := by
          rw [Bool.and_eq_true, Bool.not_eq_true', Bool.not_eq_true', mainRequest, recentRequest,
            anyFailed_batchRequest hrecords, anyFailed_batchRequest hrecords]
        rw [d.answer_writeBatch hrecords desk, ← htakes]
        cases desk.store.refusal? d.naming.writeAlias with
        | some _ => simp
        | none =>
          cases desk.store.refusal? d.naming.recentIndex with
          | some _ => simp
          | none =>
            simp only [Except.ok.injEq, true_and]
            rw [eq_comm, Bool.eq_iff_iff]
      neither := by
        intro hmain hrecent
        by_cases hrecords : records = []
        · rw [hempty hrecords]
        · rw [d.store_writeBatch hrecords, afterBatch, hunmoved hrecords hmain]
          exact batchRequest_refused hrecords hrecent
      main_only := by
        intro hrecords hmain hrecent
        rw [d.store_writeBatch hrecords, afterBatch, recentRequest,
          batchRequest_refused hrecords (hrefusal ▸ hrecent)]
        exact batchRequest_carried hrecords hmain
      recent_only := by
        intro hrecords hmain hrecent
        rw [d.store_writeBatch hrecords, afterBatch, hunmoved hrecords hmain]
        exact batchRequest_carried hrecords hrecent
      both := by
        intro hrecords hmain hrecent
        obtain ⟨results, hfirst⟩ := batchRequest_carried hrecords hmain
        obtain ⟨results', hsecond⟩ := batchRequest_carried hrecords (hrefusal.trans hrecent)
        rw [d.store_writeBatch hrecords]
        exact ⟨results, _, results', hfirst, hsecond⟩
      in_main := by
        rintro older newer record target other rfl hlast htarget hother hne hcarried haccepted
        rw [d.store_writeBatch (by simp) desk]
        exact d.document?_main htarget hother hne hcarried haccepted hlast
      in_recent := by
        rintro older newer record target other rfl hlast - hother - hcarried haccepted
        rw [d.store_writeBatch (by simp) desk]
        exact d.document?_recent httl hother hcarried haccepted hlast }

/-- **What a batch answers is what has become of it in the two places**, whatever the store is like
and however it is told to fail. The lifetime in the recent index is the one configured, and without
a limit if that is zero. -/
theorem writeBatch_dual (config : Config) (mapping : Json) (audit : AuditSink)
    (records : List Record) (desk : Desk) :
    DualWritten config.indexer.naming.writeAlias config.indexer.naming.recentIndex
      (if config.indexer.recentTtlMinutes = 0 then none else some config.indexer.recentTtlMinutes)
      records desk
      (Effect.on ((ofConfig config mapping audit).writeBatch records) desk).1
      (Effect.on ((ofConfig config mapping audit).writeBatch records) desk).2 := by
  have httl : (ofConfig config mapping audit).recentTtl ≠ some 0 := by
    show config.indexer.recentTtl ≠ some 0
    rw [IndexerConfig.recentTtl]
    split
    · exact nofun
    · rename_i hlimited
      exact fun hzero => hlimited (Option.some.inj hzero)
  exact (ofConfig config mapping audit).dualWritten_of_ttl httl records desk

/-- A store with the alias and the recent index of the prefix `a`, in which requests for the recent
index time out and a document is refused under the name of the alias. -/
def failingStore : Store where
  indices := .ofList [("a_0", { settings := { shards := 1, replicas := 0 }, creationOrder := 0 }),
    ("recent", { settings := { shards := 1, replicas := 0 }, creationOrder := 1 })]
  aliases := .ofList [("a_deflector", NameSet.add ∅ "a_0")]
  nextOrder := 2
  faults := { failingBulks := NameSet.add ∅ "recent", rejectedDocuments := [("a_deflector", "y")] }

/-- A batch of three records fails because the recent index does not answer. The record written
twice is in the other place all the same, as it was written last. -/
theorem writeBatch_dual_failing :
    (Effect.on ((ofConfig { indexer := { indexPrefix := "a", recentIndexName := "recent" } } .null
        .ledger).writeBatch [⟨"x", .int 1⟩, ⟨"y", .int 2⟩, ⟨"x", .int 3⟩])
        { store := failingStore }).1 =
      .error (.storeUnavailable "bulk to <recent> timed out") ∧
    (Effect.on ((ofConfig { indexer := { indexPrefix := "a", recentIndexName := "recent" } } .null
        .ledger).writeBatch [⟨"x", .int 1⟩, ⟨"y", .int 2⟩, ⟨"x", .int 3⟩])
        { store := failingStore }).2.store.document? "a_0" "x" =
      some { source := .int 3, ttlMinutes := none } := by
  have hdual := writeBatch_dual { indexer := { indexPrefix := "a", recentIndexName := "recent" } }
    .null .ledger [⟨"x", .int 1⟩, ⟨"y", .int 2⟩, ⟨"x", .int 3⟩] { store := failingStore }
  have hmain : failingStore.LeadsTo "a_deflector" "a_0" := .aliased "a_0" rfl rfl
  have hrecent : failingStore.LeadsTo "recent" "recent" := .direct rfl rfl
  have hsplit : ([⟨"x", .int 1⟩, ⟨"y", .int 2⟩, ⟨"x", .int 3⟩] : List Record) =
      [⟨"x", .int 1⟩, ⟨"y", .int 2⟩] ++ ⟨"x", .int 3⟩ :: [] := rfl
  refine ⟨(hdual.fails (by simp) _).mpr (.inr ⟨rfl, rfl⟩), ?_⟩
  exact hdual.in_main hsplit (by simp) hmain hrecent (by decide) rfl (by decide)

end Deployment

end RollingIndex
