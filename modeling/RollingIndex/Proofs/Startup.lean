import RollingIndex.Launch
import RollingIndex.Proofs.CompleteListings
import RollingIndex.Proofs.Recovery

/-!
# Starts

A start works on a store that is empty and confirms everything, so little can go wrong. The alias is
bound to the first index; the recent index has no number, so its name is not the name of that index;
but it may be the name of the alias, and a store creates no index under the name of an alias. So
**with an accepted configuration a start succeeds exactly if the name of the recent index is not the
name of the alias** (`Config.launch_succeeds_iff`), and what has started has nothing left to do when
it is set up again.
-/

namespace RollingIndex

/-! ## The parts of a start -/

/-- What a report is made of. -/
theorem Report.collect_eq {naming : Naming} {store : Store} {target : Target}
    (hreached : store.faults.unavailable = false)
    (htarget : store.currentTarget naming.writeAlias = .ok target) {rotated : Table IndexStats}
    (hrotated : naming.rotatedIndices store = .ok rotated) :
    collect naming store = .ok
      { nodeCount := store.nodes.size, writeAlias := naming.writeAlias, target := target.index?
        recentIndex := naming.recentIndex
        recentDocs :=
          ((store.listing naming.recentIndex).get? naming.recentIndex).map (·.primaryDocs)
        totalMessages := (store.listing naming.allPattern).total (·.primaryDocs)
        totalBytes := (store.listing naming.allPattern).total (·.sizeBytes)
        totalMegabytes := (store.listing naming.allPattern).total (·.sizeBytes) / (1024 * 1024)
        indices := byAge rotated.values } := by
  simp only [collect, htarget, hrotated, Naming.recentStats, Naming.totalMegabytes,
    Naming.totalMessages, Naming.totalBytes, Naming.listIndices, Store.stats_eq_listing hreached,
    Store.nodeCount, Store.available, hreached, bind, Except.bind, pure, Except.pure]
  rfl

/-- A store that answers whether an index exists can be reached and answers by its indices. -/
theorem Store.hasIndex_eq_ok_iff {store : Store} {name : String} {found : Bool} :
    store.hasIndex name = .ok found ↔
      store.faults.unavailable = false ∧ store.indices.contains name = found := by
  cases hunavailable : store.faults.unavailable <;>
    simp [hasIndex, available, hunavailable, bind, Except.bind, pure, Except.pure]

namespace Deployment

variable {d : Deployment} {desk after : Desk}

/-- The recent index is created with its own settings, if its store type is offered. -/
theorem on_createRecentIndex (hstoreType : checkStoreType d.recentStoreType = .ok ()) :
    Effect.on d.createRecentIndex desk =
      Effect.on (d.createWithMapping d.naming.recentIndex d.recentSettings) desk := by
  simp only [createRecentIndex, Effect.on_bind, Effect.on_lift, hstoreType]
  rfl

/-- Where the recent index exists there is nothing to do. -/
theorem ensureRecentIndex_of_contains
    (hfound : desk.store.hasIndex d.naming.recentIndex = .ok true) :
    Effect.on d.ensureRecentIndex desk = (.ok false, desk) := by
  simp only [ensureRecentIndex, Effect.on_bind, Action.on_ask, hfound]
  rfl

/-- A recent index that is missing is created, once this was logged. -/
theorem ensureRecentIndex_of_missing
    (hfound : desk.store.hasIndex d.naming.recentIndex = .ok false) :
    ∃ logged : Desk, logged.store = desk.store ∧
      Effect.on d.ensureRecentIndex desk =
        ((Effect.on d.createRecentIndex logged).1.map fun _ => true,
          (Effect.on d.createRecentIndex logged).2) := by
  simp only [ensureRecentIndex, Effect.on_bind, Action.on_ask, hfound, Bool.false_eq_true, if_false,
    Action.on_log]
  generalize hlogged : { desk with log := _ } = logged
  refine ⟨logged, by rw [← hlogged], ?_⟩
  rcases Effect.on d.createRecentIndex logged with ⟨e | _, last⟩ <;> rfl

/-- An index that was created with its mapping is there. -/
theorem contains_of_createWithMapping {name : String} {settings : IndexSettings}
    (h : Effect.on (d.createWithMapping name settings) desk = (.ok (), after)) :
    after.store.indices.contains name = true := by
  rcases d.createWithMapping_cases name settings desk with
    ⟨e, last, hcreate, -⟩ | ⟨-, -, ⟨step, last, hcreate, -⟩ | ⟨last, hcreate, hlast⟩⟩
  · rw [hcreate] at h
    cases h
  · rw [hcreate] at h
    cases h
  · rw [hcreate] at h
    cases h
    rw [hlast]
    exact desk.store.contains_withIndex_self _ _ _

/-- Once it was ensured, the recent index is there. -/
theorem contains_of_ensureRecentIndex {created : Bool}
    (h : Effect.on d.ensureRecentIndex desk = (.ok created, after)) :
    after.store.indices.contains d.naming.recentIndex = true := by
  cases hfound : desk.store.hasIndex d.naming.recentIndex with
  | error e =>
    simp only [ensureRecentIndex, Effect.on_bind, Action.on_ask, hfound] at h
    cases h
  | ok found =>
    cases found with
    | true =>
      rw [ensureRecentIndex_of_contains hfound] at h
      cases h
      exact (Store.hasIndex_eq_ok_iff.mp hfound).2
    | false =>
      obtain ⟨logged, -, hensure⟩ := ensureRecentIndex_of_missing hfound
      rw [hensure] at h
      cases hstoreType : checkStoreType d.recentStoreType with
      | error e =>
        simp only [createRecentIndex, Effect.on_bind, Effect.on_lift, hstoreType] at h
        cases h
      | ok _ =>
        rw [on_createRecentIndex hstoreType] at h
        rcases hcreate : Effect.on (d.createWithMapping d.naming.recentIndex d.recentSettings)
          logged with ⟨e | _, last⟩
        · rw [hcreate] at h
          cases h
        · rw [hcreate] at h
          cases h
          exact contains_of_createWithMapping hcreate

/-- A store that confirms everything creates the recent index under a free name. -/
theorem ensureRecentIndex_succeeds (hconfirming : desk.store.faults.Confirming)
    (hfree : desk.store.Free d.naming.recentIndex)
    (hstoreType : checkStoreType d.recentStoreType = .ok ()) :
    ∃ after, Effect.on d.ensureRecentIndex desk = (.ok true, after) ∧
      after.store =
        desk.store.withIndex d.naming.recentIndex d.recentSettings (some d.mapping) := by
  obtain ⟨logged, hlogged, hensure⟩ := ensureRecentIndex_of_missing
    (Store.hasIndex_eq_ok_iff.mpr
      ⟨hconfirming.reached, Store.contains_eq_false_iff.mpr hfree.1⟩)
  obtain ⟨after, hcreate, hafter⟩ := d.createWithMapping_succeeds logged (hlogged ▸ hconfirming)
    (hlogged ▸ hfree) d.recentSettings
  rw [on_createRecentIndex hstoreType, hcreate] at hensure
  exact ⟨after, hensure, hlogged ▸ hafter⟩

/-- An alias of its name keeps the recent index from being created. -/
theorem ensureRecentIndex_refused
    (hfound : desk.store.hasIndex d.naming.recentIndex = .ok false)
    (halias : desk.store.aliases.contains d.naming.recentIndex = true)
    (hstoreType : checkStoreType d.recentStoreType = .ok ()) :
    ∃ after, Effect.on d.ensureRecentIndex desk =
      (.error (.indexAlreadyExists d.naming.recentIndex), after) := by
  obtain ⟨logged, hlogged, hensure⟩ := ensureRecentIndex_of_missing hfound
  have hcreate : Effect.on (Store.create d.naming.recentIndex d.recentSettings) logged.store =
      (.error (.indexAlreadyExists d.naming.recentIndex), logged.store) := by
    rw [hlogged, Store.on_create, halias, (Store.hasIndex_eq_ok_iff.mp hfound).1]
    simp
  simp only [on_createRecentIndex hstoreType, createWithMapping, Effect.on_bind, Action.on_onStore,
    hcreate] at hensure
  exact ⟨_, hensure⟩

/-- Where the alias leads to an index there is nothing to do. -/
theorem setup_of_bound {index : String}
    (h : desk.store.currentTarget d.naming.writeAlias = .ok (.bound index)) :
    ∃ after, Effect.on d.setup desk = (.ok index, after) ∧ after.store = desk.store := by
  simp only [setup, Effect.on_bind, Action.on_ask, h, Action.on_log]
  exact ⟨_, rfl, rfl⟩

end Deployment

/-- Nothing was ever put into the store. -/
structure Store.Fresh (store : Store) : Prop where
  /-- there are no indices -/
  indices : store.indices = ∅
  /-- there are no aliases -/
  aliases : store.aliases = ∅

namespace Deployment

variable {d : Deployment} {desk : Desk} {store : Store}

/-- The store after the first rotation. -/
def afterSetup (d : Deployment) (store : Store) : Store :=
  d.afterRotation store .unbound (d.naming.indexName 0)

/-- The first rotation in a fresh store creates the index with number zero. -/
theorem setup_of_fresh (d : Deployment) (desk : Desk) (hfresh : desk.store.Fresh)
    (hconfirming : desk.store.faults.Confirming) :
    ∃ after, Effect.on d.setup desk = (.ok (d.naming.indexName 0), after) ∧
      after.store = d.afterSetup desk.store := by
  have hold : desk.store.currentTarget d.naming.writeAlias = .ok .unbound := by
    simp [Store.currentTarget, Store.aliasTargets, Store.available, hconfirming.reached,
      hfresh.aliases, AliasTable.targets, bind, Except.bind, pure, Except.pure]
  obtain ⟨names, hnames⟩ := d.naming.exists_rotatedNames hconfirming.reached
  have hempty : names = [] := by
    refine List.eq_nil_iff_forall_not_mem.mpr fun name hname => ?_
    have hexists := (Naming.of_mem_rotatedNames hnames hname).2
    rw [hfresh.indices] at hexists
    cases hexists
  subst hempty
  have hfree : desk.store.Free (d.naming.nextName []) := by
    rw [Store.Free, hfresh.indices, hfresh.aliases]
    exact ⟨rfl, rfl⟩
  simp only [setup, Effect.on_bind, Action.on_ask, hold, Action.on_log]
  generalize hlogged : { desk with log := _ } = logged
  have hstore : logged.store = desk.store := by rw [← hlogged]
  rw [← hstore] at hconfirming hold hnames hfree ⊢
  exact d.cycle_succeeds logged hconfirming hold hnames hfree

theorem targets_afterSetup (d : Deployment) (hfresh : store.Fresh) (aliasName : String) :
    (d.afterSetup store).aliases.targets aliasName =
      if aliasName = d.naming.writeAlias then [d.naming.indexName 0] else [] := by
  have hunbound : ∀ other, store.aliases.targets other = [] := fun other => by
    rw [hfresh.aliases]
    rfl
  have hold : store.aliases.targets d.naming.writeAlias = Target.unbound.index?.toList :=
    hunbound d.naming.writeAlias
  refine (targets_cutover hold _ _).trans ?_
  rw [hunbound aliasName]

/-- The alias is the only name that the first rotation binds. -/
theorem contains_afterSetup_iff (hfresh : store.Fresh) {name : String} :
    (d.afterSetup store).aliases.contains name = true ↔ name = d.naming.writeAlias := by
  have htargets := d.targets_afterSetup hfresh name
  by_cases hname : name = d.naming.writeAlias
  · rw [if_pos hname] at htargets
    have hbound : d.naming.indexName 0 ∈ (d.afterSetup store).aliases.targets name := by
      rw [htargets]
      exact List.mem_singleton_self _
    exact iff_of_true (AliasTable.contains_of_mem_targets hbound) hname
  · rw [if_neg hname] at htargets
    refine iff_of_false (fun hbound => ?_) hname
    obtain ⟨index, hindex⟩ := AliasTable.exists_mem_of_contains_prune hbound
    rw [← AliasTable.targets_prune] at hindex
    exact List.not_mem_nil (htargets ▸ hindex)

/-- The recent index has no number, so it does not exist after the first rotation. -/
theorem get?_afterSetup_recentIndex (hfresh : store.Fresh) (haccepted : d.Accepted) :
    (d.afterSetup store).indices.get? d.naming.recentIndex = none := by
  have hne : d.naming.recentIndex ≠ d.naming.indexName 0 := by
    intro heq
    have hrecent := haccepted.indexNumber?_recentIndex
    rw [heq, Naming.indexNumber?_indexName (by decide)] at hrecent
    cases hrecent
  rw [afterSetup, afterRotation, Store.get?_withIndex_of_ne hne, hfresh.indices]
  rfl

/-! ## The start of a deployment -/

/-- The store of a deployment that has started. -/
def afterBootstrap (d : Deployment) (store : Store) : Store :=
  (d.afterSetup store).withIndex d.naming.recentIndex d.recentSettings (some d.mapping)

theorem currentTarget_afterBootstrap (hfresh : store.Fresh)
    (hreached : store.faults.unavailable = false) :
    (d.afterBootstrap store).currentTarget d.naming.writeAlias =
      .ok (.bound (d.naming.indexName 0)) := by
  have htargets : (d.afterBootstrap store).aliases.targets d.naming.writeAlias =
      [d.naming.indexName 0] := (d.targets_afterSetup hfresh _).trans (if_pos rfl)
  have hreached' : (d.afterBootstrap store).faults.unavailable = false := hreached
  simp [Store.currentTarget, Store.aliasTargets, Store.available, hreached', htargets, bind,
    Except.bind, pure, Except.pure]

/-- An accepted deployment starts in a fresh store if its recent index is not called like the
alias. -/
theorem bootstrap_succeeds (d : Deployment) (desk : Desk) (hfresh : desk.store.Fresh)
    (hconfirming : desk.store.faults.Confirming) (haccepted : d.Accepted)
    (hne : d.naming.recentIndex ≠ d.naming.writeAlias) :
    ∃ report after, Effect.on d.bootstrap desk = (.ok report, after) ∧
      after.store = d.afterBootstrap desk.store := by
  obtain ⟨bound, hsetup, hbound⟩ := d.setup_of_fresh desk hfresh hconfirming
  have hfree : bound.store.Free d.naming.recentIndex := by
    refine ⟨?_, Store.contains_eq_false_iff.mp (Bool.eq_false_iff.mpr fun halias => hne ?_)⟩
    · rw [hbound]
      exact get?_afterSetup_recentIndex hfresh haccepted
    · rw [hbound] at halias
      exact (contains_afterSetup_iff hfresh).mp halias
  have hwilling : bound.store.faults.Confirming := by
    rw [hbound]
    exact hconfirming
  obtain ⟨ready, hensure, hready⟩ := ensureRecentIndex_succeeds hwilling hfree
    haccepted.checkStoreType_eq
  have hready : ready.store = d.afterBootstrap desk.store := by rw [hready, hbound, afterBootstrap]
  have hreached : ready.store.faults.unavailable = false := by
    rw [hready]
    exact hconfirming.reached
  -- a report can be made of what is there
  have htarget : ready.store.currentTarget d.naming.writeAlias =
      .ok (.bound (d.naming.indexName 0)) := by
    rw [hready]
    exact currentTarget_afterBootstrap hfresh hconfirming.reached
  have hcollect := Report.collect_eq hreached htarget (d.naming.rotatedIndices_eq hreached)
  simp only [bootstrap, Effect.on_bind, hsetup, hensure, Action.on_ask, hcollect]
  exact ⟨_, ready, rfl, hready⟩

/-- An accepted deployment does not start if its recent index is called like the alias. -/
theorem bootstrap_refused (d : Deployment) (desk : Desk) (hfresh : desk.store.Fresh)
    (hconfirming : desk.store.faults.Confirming) (haccepted : d.Accepted)
    (heq : d.naming.recentIndex = d.naming.writeAlias) :
    ∃ after, Effect.on d.bootstrap desk =
      (.error (.indexAlreadyExists d.naming.recentIndex), after) := by
  obtain ⟨bound, hsetup, hbound⟩ := d.setup_of_fresh desk hfresh hconfirming
  have hreached : bound.store.faults.unavailable = false := by
    rw [hbound]
    exact hconfirming.reached
  have hmissing : bound.store.indices.contains d.naming.recentIndex = false := by
    rw [hbound]
    exact Store.contains_eq_false_iff.mpr (get?_afterSetup_recentIndex hfresh haccepted)
  have halias : bound.store.aliases.contains d.naming.recentIndex = true := by
    rw [hbound]
    exact (contains_afterSetup_iff hfresh).mpr heq
  obtain ⟨after, hensure⟩ := ensureRecentIndex_refused
    (Store.hasIndex_eq_ok_iff.mpr ⟨hreached, hmissing⟩) halias haccepted.checkStoreType_eq
  simp only [bootstrap, Effect.on_bind, hsetup, hensure]
  exact ⟨_, rfl⟩

/-- What has started has nothing left to do when it is set up again. -/
theorem setup_again (d : Deployment) (desk : Desk) (hfresh : store.Fresh)
    (hconfirming : store.faults.Confirming) (hdesk : desk.store = d.afterBootstrap store) :
    ∃ again, Effect.on d.setup desk = (.ok (d.naming.indexName 0), again) ∧
      again.store = desk.store ∧ Effect.on d.ensureRecentIndex again = (.ok false, again) := by
  have htarget : desk.store.currentTarget d.naming.writeAlias =
      .ok (.bound (d.naming.indexName 0)) := by
    rw [hdesk]
    exact currentTarget_afterBootstrap hfresh hconfirming.reached
  obtain ⟨again, hsetup, hagain⟩ := setup_of_bound htarget
  refine ⟨again, hsetup, hagain,
    ensureRecentIndex_of_contains (Store.hasIndex_eq_ok_iff.mpr ⟨?_, ?_⟩)⟩
  · rw [hagain, hdesk]
    exact hconfirming.reached
  · rw [hagain, hdesk]
    exact (d.afterSetup store).contains_withIndex_self _ _ _

end Deployment

/-! ## Starts with a configuration -/

theorem localStore_fresh : localStore.Fresh := ⟨rfl, rfl⟩

theorem localStore_confirming : localStore.faults.Confirming := ⟨rfl, rfl, rfl, rfl⟩

namespace Config

variable {config : Config} {files : Files} {mapping : Json}

/-- The desk that a start begins at. -/
def firstDesk (config : Config) : Desk := { store := localStore, log := [announcement config] }

/-- A start succeeds or fails like the start of its deployment. -/
theorem launch_result (hmapping : config.indexer.loadMapping files = .ok mapping) :
    (config.launch files).result =
      match Effect.on (Deployment.ofConfig config mapping .log).bootstrap config.firstDesk with
      | (.error e, _) => .error (.failure e)
      | (.ok report, after) =>
        .ok { config, deployment := .ofConfig config mapping .log
              desk := { after with log := [] }, report } := by
  rw [launch, hmapping, firstDesk]
  dsimp only
  generalize Effect.on (Deployment.ofConfig config mapping .log).bootstrap _ = outcome
  rcases outcome with ⟨e | report, after⟩ <;> rfl

/-- **When a start succeeds.** With a configuration that is accepted and whose mapping can be
loaded, a start succeeds if and only if the recent index is not called like the alias; if it is, the
start fails because the name is taken. After a start that succeeds the alias is bound to the index
with number zero and to nothing else, and the recent index exists with the configured settings and
the mapping that was loaded. To set up and to ensure the recent index once more succeeds and changes
nothing in the store. -/
theorem launch_succeeds_iff (hvalid : config.validate = .ok ())
    (hmapping : config.indexer.loadMapping files = .ok mapping) :
    ((∃ service, (config.launch files).result = .ok service) ↔
        config.indexer.recentIndexName ≠ config.indexer.naming.writeAlias) ∧
      (config.indexer.recentIndexName = config.indexer.naming.writeAlias →
        (config.launch files).result =
          .error (.failure (.indexAlreadyExists config.indexer.recentIndexName))) ∧
      ∀ service, (config.launch files).result = .ok service →
        service.desk.store.aliases.targets config.indexer.naming.writeAlias =
          [config.indexer.naming.indexName 0] ∧
        (∃ creationOrder,
          service.desk.store.indices.get? config.indexer.recentIndexName =
            some
              { settings :=
                  { shards := config.indexer.shards, replicas := config.indexer.replicas
                    storeType := some config.indexer.recentStoreType }
                mapping := some mapping, creationOrder }) ∧
        ∃ again last,
          Effect.on service.deployment.setup service.desk =
            (.ok (config.indexer.naming.indexName 0), again) ∧
          again.store = service.desk.store ∧
          Effect.on service.deployment.ensureRecentIndex again = (.ok false, last) ∧
          last.store = service.desk.store := by
  have haccepted : (Deployment.ofConfig config mapping .log).Accepted :=
    ⟨config, mapping, .log, hvalid, rfl⟩
  have hresult := launch_result hmapping
  by_cases hname : config.indexer.recentIndexName = config.indexer.naming.writeAlias
  · obtain ⟨after, hbootstrap⟩ := Deployment.bootstrap_refused _ config.firstDesk
      localStore_fresh localStore_confirming haccepted hname
    rw [hbootstrap] at hresult
    refine ⟨⟨fun ⟨service, hservice⟩ => ?_, fun hne => absurd hname hne⟩, fun _ => hresult,
      fun service hservice => ?_⟩
    · rw [hresult] at hservice
      cases hservice
    · rw [hresult] at hservice
      cases hservice
  · obtain ⟨report, after, hbootstrap, hafter⟩ := Deployment.bootstrap_succeeds _ config.firstDesk
      localStore_fresh localStore_confirming haccepted hname
    rw [hbootstrap] at hresult
    refine ⟨⟨fun _ => hname, fun _ => ⟨_, hresult⟩⟩, fun heq => absurd heq hname,
      fun service hservice => ?_⟩
    rw [hresult] at hservice
    cases hservice
    obtain ⟨again, hsetup, hagain, hensure⟩ := Deployment.setup_again _ { after with log := [] }
      localStore_fresh localStore_confirming hafter
    refine ⟨?_, ?_, again, again, hsetup, hagain, hensure, hagain⟩
    · show after.store.aliases.targets _ = _
      rw [hafter]
      exact (Deployment.targets_afterSetup _ localStore_fresh _).trans (if_pos rfl)
    · show ∃ creationOrder, after.store.indices.get? _ = _
      rw [hafter]
      exact ⟨_, Store.get?_withIndex_self _ _ _ _⟩

/-- The default configuration starts. -/
theorem launch_succeeds_default :
    ({} : Config).validate = .ok () ∧
      ({} : Config).indexer.loadMapping (fun _ => none) =
        .ok (.object [("analyzer", .text "standard")]) ∧
      ∃ service, (({} : Config).launch fun _ => none).result = .ok service ∧
        service.desk.store.aliases.targets "graylog2_deflector" = ["graylog2_0"] := by
  have hmapping : ({} : Config).indexer.loadMapping (fun _ => none) =
      .ok (.object [("analyzer", .text "standard")]) := rfl
  obtain ⟨hstarts, -, hservice⟩ := @launch_succeeds_iff {} _ _ rfl hmapping
  obtain ⟨service, hresult⟩ := hstarts.mpr (by decide)
  exact ⟨rfl, hmapping, service, hresult, (hservice service hresult).1⟩

/-- A configuration that is accepted, whose mapping can be loaded, and that does not start: its
recent index is called like the alias. -/
theorem launch_fails_under_alias :
    Config.validate { indexer := { recentIndexName := "graylog2_deflector" } } = .ok () ∧
      IndexerConfig.loadMapping { recentIndexName := "graylog2_deflector" } (fun _ => none) =
        .ok (.object [("analyzer", .text "standard")]) ∧
      (Config.launch { indexer := { recentIndexName := "graylog2_deflector" } }
        fun _ => none).result = .error (.failure (.indexAlreadyExists "graylog2_deflector")) :=
  ⟨rfl, rfl, rfl⟩

end Config

end RollingIndex
