import RollingIndex.Admin.Handler
import RollingIndex.Proofs.Consistency
import RollingIndex.Proofs.Ledgers
import RollingIndex.Proofs.Runs

/-!
# What an error leaves behind

A request to the admin interface that is answered with an error has changed nothing, except for two
requests that consist of several steps:

* **a rotation that failed** may have left a new index, without documents and without an alias, and
  has made one entry in the record;
* **a batch that failed** may have been written to one of its two places, if the store refused the
  request to the other.

Each route is gone through once (`Deployment.serve_residue`), and what the errors of all requests
have in common is read off the cases (`Deployment.handle_error`).
-/

namespace RollingIndex

/-- The request is let through to a route: its path is the one of the route, and the route may be
asked for by its method. -/
def Request.Reaches (request : Request) (route : Route) : Prop :=
  Route.ofPath? request.path = some route ∧ route.allows request.method = true

/-- A request by `POST` with a body of JSON. -/
def Request.post (path body : String) : Request where
  method := "POST"
  path := path.toList
  mediaType := some "application/json"
  body := body.toUTF8.toList

/-- The answer to what serving a request came to. -/
def Response.ofOutcome : Except Failure Response → Response
  | .ok response => response
  | .error e => .ofFailure e

/-! ## Bulk requests that fail -/

namespace Store

variable {store after : Store} {request : BulkRequest} {e : Failure}

/-- Whether a request is refused depends on the faults of the store only. -/
theorem on_bulk_of_faults_eq (hfaults : after.faults = store.faults)
    (h : (Effect.on (bulk request) store).1 = .error e) :
    Effect.on (bulk request) after = (.error e, after) := by
  rw [on_bulk] at h ⊢
  rw [hfaults]
  split at h
  · rename_i hunavailable
    cases h
    rw [if_pos hunavailable]
  · rename_i hreached
    rw [if_neg hreached]
    split at h
    · rename_i item hfailing
      cases h
      rfl
    · cases h

/-- A request is refused only if the store does not answer. -/
theorem storeUnavailable_of_bulk (h : (Effect.on (bulk request) store).1 = .error e) :
    ∃ reason, e = .storeUnavailable reason := by
  rw [on_bulk] at h
  split at h
  · cases h
    exact ⟨_, rfl⟩
  · split at h
    · cases h
      exact ⟨_, rfl⟩
    · cases h

end Store

namespace Deployment

variable {d : Deployment} {desk after : Desk} {request : Request} {response : Response}
  {route : Route} {e : Failure}

/-! ## Rotations that fail -/

/-- One more index is there, left behind by a rotation, with its mapping or without. It has a name
that was free and no documents, and no alias is bound to it if the parts of the store fit
together. -/
def Stranded (d : Deployment) (store after : Store) : Prop :=
  ∃ n mapping, store.Free (d.naming.indexName n) ∧ (mapping = none ∨ mapping = some d.mapping) ∧
    after = store.withIndex (d.naming.indexName n) d.rotatedSettings mapping ∧
    (store.Consistent → ∀ aliasName, d.naming.indexName n ∉ after.aliases.targets aliasName)

/-- A rotation that fails leaves the store as it is, or leaves an index behind. -/
theorem Rotation.of_error {store after : Store} (h : d.Rotation store (.error e) after) :
    after = store ∨ d.Stranded store after := by
  cases h with
  | refused => exact .inl rfl
  | stranded names step mapping _ hfree hmapping =>
    refine .inr ⟨_, mapping, hfree, hmapping, rfl, fun hconsistent aliasName hbound => ?_⟩
    -- what an alias is bound to existed before, and this index did not
    have hexists : store.indices.contains (d.naming.nextName names) = true :=
      hconsistent.exists_target hbound
    rw [Store.contains_eq_false_iff.mpr hfree.1] at hexists
    cases hexists

/-- An index left behind changes nothing about aliases and other indices. -/
theorem Stranded.frame {store after : Store} (h : d.Stranded store after) :
    after.aliases = store.aliases ∧ ∀ {name index}, store.indices.get? name = some index →
      after.indices.get? name = some index := by
  obtain ⟨n, mapping, hfree, -, rfl, -⟩ := h
  refine ⟨rfl, fun {name index} hindex => ?_⟩
  have hne : name ≠ d.naming.indexName n := by
    rintro rfl
    rw [hfree.1] at hindex
    cases hindex
  rw [Store.get?_withIndex_of_ne hne, hindex]

/-! ## Batches that fail -/

/-- One of the two requests of a batch is carried out on the store, and the other is refused. -/
def HalfWritten (d : Deployment) (records : List Record) (store after : Store) : Prop :=
  ∃ carried refused,
    (carried = d.mainRequest records ∧ refused = d.recentRequest records ∨
      carried = d.recentRequest records ∧ refused = d.mainRequest records) ∧
    (∃ results, Effect.on (Store.bulk carried) store = (.ok results, after)) ∧
    ∃ e, Effect.on (Store.bulk refused) store = (.error e, store)

/-- A batch that fails leaves the store as it is, or is half written. -/
theorem writeBatch_error {records : List Record}
    (h : Effect.on (d.writeBatch records) desk = (.error e, after)) :
    (∃ reason, e = .storeUnavailable reason) ∧
      (after.store = desk.store ∨ d.HalfWritten records desk.store after.store) := by
  have hrecords : records ≠ [] := by
    rintro rfl
    cases h
  obtain ⟨last, hwrite, hlast⟩ := d.on_writeBatch hrecords desk
  rw [h] at hwrite
  obtain ⟨hanswer, rfl⟩ := Prod.mk.inj hwrite
  rw [hlast, afterBatch]
  have hfaults : (d.afterMain records desk.store).faults = desk.store.faults :=
    (Store.bulk_frame _ _).2.1
  rcases Store.bulk_cases (d.mainRequest records) desk.store with ⟨e', hmain⟩ | hmain
  -- the request to the alias is refused, and the other is made all the same
  · have hmiddle : d.afterMain records desk.store = desk.store := by rw [afterMain, hmain]
    rw [hmain, hmiddle] at hanswer
    cases hanswer
    refine ⟨Store.storeUnavailable_of_bulk (congrArg Prod.fst hmain), ?_⟩
    rw [hmiddle]
    rcases Store.bulk_cases (d.recentRequest records) desk.store with ⟨e', hrecent⟩ | hrecent
    · exact .inl (congrArg Prod.snd hrecent)
    · refine .inr ⟨d.recentRequest records, d.mainRequest records, .inr ⟨rfl, rfl⟩, ?_, _, hmain⟩
      rw [hrecent]
      exact ⟨_, rfl⟩
  -- the request to the alias is carried out, so it is the other that is refused
  · rcases Store.bulk_cases (d.recentRequest records) (d.afterMain records desk.store) with
      ⟨e', hrecent⟩ | hrecent
    · rw [hmain, hrecent] at hanswer
      cases hanswer
      rw [hrecent]
      have hrefused := Store.on_bulk_of_faults_eq hfaults.symm (congrArg Prod.fst hrecent)
      refine ⟨Store.storeUnavailable_of_bulk (congrArg Prod.fst hrecent),
        .inr ⟨d.mainRequest records, d.recentRequest records, .inl ⟨rfl, rfl⟩, ?_, _, hrefused⟩⟩
      rw [afterMain, hmain]
      exact ⟨_, rfl⟩
    · rw [hmain, hrecent] at hanswer
      cases hanswer

/-- A batch that is half written changes documents and the trace only. -/
theorem HalfWritten.frame {records : List Record} {store after : Store}
    (h : d.HalfWritten records store after) :
    after.aliases = store.aliases ∧ ∀ {name index}, store.indices.get? name = some index →
      ∃ documents, after.indices.get? name = some { index with documents } := by
  obtain ⟨carried, -, -, ⟨results, hcarried⟩, -⟩ := h
  have hframe := Store.bulk_frame carried store
  rw [hcarried] at hframe
  refine ⟨hframe.1, fun {name index} hindex => ?_⟩
  obtain ⟨documents, hafter⟩ := Store.exists_documents_bulk carried store name
  rw [hcarried, hindex] at hafter
  exact ⟨documents, hafter⟩

/-! ## Purges and sweeps that fail -/

theorem purge_error {upTo : Int} (h : Effect.on (d.purge upTo) desk = (.error e, after)) :
    after = desk := by
  rcases d.purge_cases upTo desk with ⟨e', hfailed⟩ | ⟨count, last, names, hpurged, -⟩
  · rw [hfailed] at h
    exact (congrArg Prod.snd h).symm
  · rw [hpurged] at h
    cases h

theorem sweep_error (h : Effect.on d.sweep desk = (.error e, after)) : after = desk := by
  rcases d.sweep_cases desk with ⟨e', hfailed⟩ | ⟨report, last, current, hswept, -⟩
  · rw [hfailed] at h
    exact (congrArg Prod.snd h).symm
  · rw [hswept] at h
    cases h

/-! ## What the routes leave behind -/

/-- What is left of a desk by a request that a route answers with an error. -/
inductive Residue (d : Deployment) (request : Request) (desk : Desk) :
    Route → Response → Desk → Prop where
  /-- nothing is changed -/
  | untouched (route : Route) (response : Response) : route ≠ .cycle →
      Residue d request desk route response desk
  /-- a rotation failed and was recorded -/
  | rotated (e : Failure) (after : Desk) :
      after.ledger = d.entered desk.ledger (d.rotationFailureEntry e) →
      after.store = desk.store ∨ d.Stranded desk.store after.store →
      Residue d request desk .cycle (.ofFailure e) after
  /-- a batch failed -/
  | wrote (records : List Record) (reason : String) (after : Desk) :
      request.content Body.records = .ok records → after.ledger = desk.ledger →
      after.store = desk.store ∨ d.HalfWritten records desk.store after.store →
      Residue d request desk .messages (.ofFailure (.storeUnavailable reason)) after

/-- A route that answers with the value of an action answers with an error only if the action
fails. -/
theorem fails_of_error {α : Type} {action : Action α} {body : α → Json}
    (herror : 400 ≤ (Response.ofOutcome
      (Effect.on (action >>= fun a => pure (.ok (body a))) desk).1).status) :
    ∃ e after, Effect.on action desk = (.error e, after) ∧
      Effect.on (action >>= fun a => pure (Response.ok (body a))) desk = (.error e, after) := by
  rw [Effect.on_bind] at herror ⊢
  generalize Effect.on action desk = outcome at herror ⊢
  rcases outcome with ⟨e | a, after⟩
  · exact ⟨e, after, rfl, rfl⟩
  · have hstatus : 400 ≤ 200 := herror
    exact absurd hstatus (by decide)

/-- **Each route leaves a residue only** where it answers with an error. -/
theorem serve_residue (d : Deployment) (request : Request) (route : Route) (desk : Desk)
    (herror : 400 ≤ (Response.ofOutcome (Effect.on (d.serve request route) desk).1).status) :
    d.Residue request desk route
      (Response.ofOutcome (Effect.on (d.serve request route) desk).1)
      (Effect.on (d.serve request route) desk).2 := by
  cases route with
  | messages =>
    rw [serve] at herror ⊢
    cases hcontent : request.content Body.records with
    | error response => exact .untouched _ _ nofun
    | ok records =>
      rw [hcontent] at herror
      obtain ⟨e, after, hwrite, hserve⟩ := fails_of_error herror
      obtain ⟨⟨reason, rfl⟩, hstore⟩ := writeBatch_error hwrite
      have hledger := (d.quiet_writeBatch records).keepsLedger desk
      rw [hwrite] at hledger
      dsimp only
      rw [hserve]
      exact .wrote records reason after hcontent hledger hstore
  | cycle =>
    rw [serve] at herror ⊢
    obtain ⟨e, after, hcycle, hserve⟩ := fails_of_error herror
    have hrotation := d.cycle_rotation desk
    rw [hcycle] at hrotation
    rw [hserve]
    exact .rotated e after (ledger_cycle_of_error hcycle) hrotation.of_error
  | retention =>
    rw [serve] at herror ⊢
    obtain ⟨e, after, hsweep, hserve⟩ := fails_of_error herror
    rw [hserve, sweep_error hsweep]
    exact .untouched _ _ nofun
  | purge =>
    rw [serve] at herror ⊢
    cases hcontent : request.content Body.bound with
    | error response => exact .untouched _ _ nofun
    | ok upTo =>
      rw [hcontent] at herror
      obtain ⟨e, after, hpurge, hserve⟩ := fails_of_error herror
      dsimp only
      rw [hserve, purge_error hpurge]
      exact .untouched _ _ nofun
  | indices =>
    rw [serve]
    simp only [Effect.on_bind, Action.on_ask]
    cases d.naming.listIndices desk.store <;> exact .untouched _ _ nofun
  | count name =>
    rw [serve]
    cases Route.decodeName? name with
    | none => exact .untouched _ _ nofun
    | some index =>
      simp only [Effect.on_bind, Action.on_ask]
      cases d.naming.documentCount index desk.store <;> exact .untouched _ _ nofun
  | status =>
    rw [serve]
    simp only [Effect.on_bind, Action.on_ask]
    cases Report.collect d.naming desk.store <;> exact .untouched _ _ nofun

/-! ## What all errors have in common -/

/-- A request that reaches a route is answered with what the route answers, and `HEAD` without the
body of it. -/
theorem handle_of_reaches (d : Deployment) (desk : Desk) (h : request.Reaches route) :
    d.handle request desk =
      (if request.method == "HEAD" then
          { Response.ofOutcome (Effect.on (d.serve request route) desk).1 with body := none }
        else Response.ofOutcome (Effect.on (d.serve request route) desk).1,
        (Effect.on (d.serve request route) desk).2) := by
  rw [handle, h.1]
  dsimp only
  rw [if_pos h.2]
  rcases Effect.on (d.serve request route) desk with ⟨e | answer, after⟩ <;> rfl

/-- A request that is answered with an error reached no route and changed nothing, or it reached one
that leaves a residue only. The answer is the one of that route, but for a body. -/
theorem handle_residue (h : d.handle request desk = (response, after))
    (herror : 400 ≤ response.status) :
    (∀ route, ¬ request.Reaches route) ∧ after = desk ∨
      ∃ route full, request.Reaches route ∧ d.Residue request desk route full after ∧
        response.status = full.status ∧ (route.changes = true → response = full) := by
  by_cases hreaches : ∃ route, request.Reaches route
  · obtain ⟨route, hroute⟩ := hreaches
    rw [d.handle_of_reaches desk hroute] at h
    obtain ⟨hresponse, rfl⟩ := Prod.mk.inj h
    have hstatus : response.status =
        (Response.ofOutcome (Effect.on (d.serve request route) desk).1).status := by
      rw [← hresponse]
      split <;> rfl
    refine .inr ⟨route, _, hroute, d.serve_residue request route desk (hstatus ▸ herror), hstatus,
      fun hchanges => ?_⟩
    -- a route that changes something is not asked for by `HEAD`
    have hmethod : request.method = "POST" := by
      have hallows := hroute.2
      rw [Route.allows, if_pos hchanges] at hallows
      exact beq_iff_eq.mp hallows
    rw [← hresponse, hmethod]
    rfl
  · have hnone : ∀ route, ¬ request.Reaches route := fun route hroute => hreaches ⟨route, hroute⟩
    refine .inl ⟨hnone, ?_⟩
    rw [handle] at h
    split at h
    · exact (congrArg Prod.snd h).symm
    · rename_i route hroute
      split at h
      · rename_i hallows
        exact absurd ⟨hroute, hallows⟩ (hnone route)
      · exact (congrArg Prod.snd h).symm

/-- Whatever is left, all that was there is as it was: the aliases, the date ranges, and every index
with its settings, its mapping and its place in the order of creation. Documents may differ after a
batch only. -/
theorem Residue.kept {full : Response} (h : d.Residue request desk route full after) :
    after.store.aliases = desk.store.aliases ∧ after.ledger.ranges = desk.ledger.ranges ∧
      ∀ {name index}, desk.store.indices.get? name = some index →
        ∃ documents, after.store.indices.get? name = some { index with documents } ∧
          (route ≠ .messages → documents = index.documents) := by
  cases h with
  | untouched => exact ⟨rfl, rfl, fun hindex => ⟨_, hindex, fun _ => rfl⟩⟩
  | rotated e _ hledger hstore =>
    rw [hledger, d.ranges_entered]
    rcases hstore with hstore | hstranded
    · rw [hstore]
      exact ⟨rfl, rfl, fun hindex => ⟨_, hindex, fun _ => rfl⟩⟩
    · exact ⟨hstranded.frame.1, rfl, fun hindex => ⟨_, hstranded.frame.2 hindex, fun _ => rfl⟩⟩
  | wrote records reason _ hcontent hledger hstore =>
    rw [hledger]
    rcases hstore with hstore | hhalf
    · rw [hstore]
      exact ⟨rfl, rfl, fun hindex => ⟨_, hindex, fun _ => rfl⟩⟩
    · refine ⟨hhalf.frame.1, rfl, fun hindex => ?_⟩
      obtain ⟨documents, hdocuments⟩ := hhalf.frame.2 hindex
      exact ⟨documents, hdocuments, fun hne => absurd rfl hne⟩

/-- **What an error of the admin interface leaves behind**, for every request at every desk. All
indices are there with their settings, mappings and places in the order of creation, all aliases and
date ranges are as before, and a request that is neither a rotation nor a batch has changed nothing
at all. Nor has a batch with an error of the client.

A rotation that failed has made one entry in the record, which names its failure, and has changed
nothing else, or has left one more index under a name that was free, without documents. No alias is
bound to it in a store whose parts fit together, as they do in every store that can be reached
(`Store.consistent_run`).

A batch that failed has changed nothing, or one of its two requests was carried out and the other
refused. -/
theorem handle_error (d : Deployment) (request : Request) (desk : Desk) {response : Response}
    {after : Desk} (h : d.handle request desk = (response, after))
    (herror : 400 ≤ response.status) :
    after.store.aliases = desk.store.aliases ∧ after.ledger.ranges = desk.ledger.ranges ∧
    (∀ name index, desk.store.indices.get? name = some index →
      ∃ documents, after.store.indices.get? name = some { index with documents } ∧
        (¬ request.Reaches .messages → documents = index.documents)) ∧
    (¬ request.Reaches .cycle → ¬ request.Reaches .messages → after = desk) ∧
    (¬ request.Reaches .cycle → response.status < 500 → after = desk) ∧
    (request.Reaches .cycle → ∃ e, response = .ofFailure e ∧
      after.ledger = d.entered desk.ledger (d.rotationFailureEntry e) ∧
      (after.store = desk.store ∨ d.Stranded desk.store after.store)) ∧
    (request.Reaches .messages → after.ledger = desk.ledger ∧
      (after.store = desk.store ∨
        ∃ records, request.content Body.records = .ok records ∧
          d.HalfWritten records desk.store after.store)) := by
  rcases handle_residue h herror with
    ⟨hnone, rfl⟩ | ⟨route, full, hroute, hresidue, hstatus, hfull⟩
  · exact ⟨rfl, rfl, fun _ _ hindex => ⟨_, hindex, fun _ => rfl⟩, fun _ _ => rfl, fun _ _ => rfl,
      fun hcycle => absurd hcycle (hnone _), fun hmessages => absurd hmessages (hnone _)⟩
  · have hunique : ∀ {other}, request.Reaches other → other = route := fun hother =>
      Option.some.inj (hother.1.symm.trans hroute.1)
    obtain ⟨haliases, hranges, hindices⟩ := hresidue.kept
    refine ⟨haliases, hranges, fun name index hindex => ?_, ?_⟩
    · obtain ⟨documents, hdocuments, hsame⟩ := hindices hindex
      exact ⟨documents, hdocuments, fun hother => hsame fun heq => hother (heq ▸ hroute)⟩
    cases hresidue with
    | untouched _ _ hne =>
      exact ⟨fun _ _ => rfl, fun _ _ => rfl, fun hcycle => absurd (hunique hcycle).symm hne,
        fun _ => ⟨rfl, .inl rfl⟩⟩
    | rotated e _ hledger hstore =>
      exact ⟨fun hcycle => absurd hroute hcycle, fun hcycle => absurd hroute hcycle,
        fun _ => ⟨e, hfull rfl, hledger, hstore⟩, fun hmessages => nomatch hunique hmessages⟩
    | wrote records reason _ hcontent hledger hstore =>
      refine ⟨fun _ hmessages => absurd hroute hmessages, fun _ hclient => ?_,
        fun hcycle => (nomatch hunique hcycle), fun _ => ⟨hledger, ?_⟩⟩
      · have hserver : response.status = 503 := hstatus
        rw [hserver] at hclient
        exact absurd hclient (by decide)
      · exact hstore.imp_right fun hhalf => ⟨records, hcontent, hhalf⟩

/-- A store after the first rotation that does not confirm changes of aliases. -/
def unconfirming : Store :=
  ((Cluster.start [.named "a" "recent"]).run
    [.operation 0 .setup, .fault (.acknowledgeAliases false)]).store

/-- A store after the first rotation that refuses requests to the recent index. -/
def refusing : Store :=
  ((Cluster.start [.named "a" "recent"]).run
    [.operation 0 .setup, .fault (.failBulk "recent")]).store

/-- Both exceptions occur. A rotation leaves an index behind if the store does not confirm the
change of the alias, and a batch is half written if the store refuses the request to the recent
index. -/
theorem handle_error_exceptions :
    (∃ response after, (Deployment.named "a" "recent").handle (.post "/cycle" "")
        { store := unconfirming } = (response, after) ∧
      400 ≤ response.status ∧
      (Deployment.named "a" "recent").Stranded unconfirming after.store) ∧
    ∃ response after, (Deployment.named "a" "recent").handle (.post "/messages" "[[\"m\", 1]]")
        { store := refusing } = (response, after) ∧
      400 ≤ response.status ∧
      ∃ records, (Deployment.named "a" "recent").HalfWritten records refusing after.store := by
  constructor
  · refine ⟨_, _, rfl, by decide, ?_⟩
    obtain ⟨-, -, -, -, -, hcycle, -⟩ :=
      handle_error (.named "a" "recent") (.post "/cycle" "") { store := unconfirming } rfl
        (by decide)
    obtain ⟨-, -, -, hsame | hstranded⟩ := hcycle ⟨rfl, rfl⟩
    · have hcreated := congrArg (·.indices.contains "a_1") hsame
      exact absurd hcreated (by decide)
    · exact hstranded
  · refine ⟨_, _, rfl, by decide +kernel, ?_⟩
    obtain ⟨-, -, -, -, -, -, hmessages⟩ :=
      handle_error (.named "a" "recent") (.post "/messages" "[[\"m\", 1]]")
        { store := refusing } rfl (by decide +kernel)
    obtain ⟨-, hsame | ⟨records, -, hhalf⟩⟩ := hmessages ⟨rfl, rfl⟩
    · have hwritten := congrArg (fun store => (store.document? "a_0" "m").isSome) hsame
      exact absurd hwritten (by decide +kernel)
    · exact ⟨records, hhalf⟩

end Deployment

end RollingIndex
