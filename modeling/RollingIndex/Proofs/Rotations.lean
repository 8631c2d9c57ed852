import RollingIndex.Deployment.Rotation
import RollingIndex.Proofs.Bindings
import RollingIndex.Proofs.StoreChanges

/-!
# What a rotation does

A rotation asks for the target of the alias and for the rotated names, creates the next index and
moves the alias. It can end after each of these steps, and leaves one of three stores
(`Deployment.Rotation`): the store as it was, the store with one more index, or the store with one
more index to which the alias was moved. What the record says of it is the text of an entry
(`Deployment.rotationEntry`, `Deployment.rotationFailureEntry`).
-/

namespace RollingIndex

/-! ## Entries in log and record -/

namespace Action

@[simp] theorem on_log (level : LogLevel) (text : String) (desk : Desk) :
    Effect.on (log level text) desk =
      (.ok (), { desk with log := desk.log ++ [{ level, text }] }) :=
  on_logLines ..

/-- An entry in the record of a deployment does not touch the store. -/
theorem on_record (deployment : Deployment) (entry : Activity) (desk : Desk) :
    ∃ after : Desk, Effect.on (record deployment entry) desk = (.ok (), after) ∧
      after.store = desk.store := by
  rw [record, Effect.on_modify]
  refine ⟨_, rfl, ?_⟩
  split <;> rfl

end Action

/-! ## What a deployment reads off its store -/

namespace Store

variable {store : Store} {aliasName : String}

/-- An alias leads to the one index that it is bound to, and to none if it is bound to none. -/
theorem targets_of_currentTarget {target : Target}
    (h : store.currentTarget aliasName = .ok target) :
    store.aliases.targets aliasName = target.index?.toList := by
  rw [currentTarget, aliasTargets] at h
  cases havailable : store.available with
  | error e =>
    rw [havailable] at h
    cases h
  | ok _ =>
    rw [havailable] at h
    cases htargets : store.aliases.targets aliasName with
    | nil =>
      simp only [bind, Except.bind, pure, Except.pure, htargets] at h
      cases h
      rfl
    | cons index rest =>
      simp only [bind, Except.bind, pure, Except.pure, htargets] at h
      cases rest with
      | nil =>
        cases h
        rfl
      | cons _ _ => cases h

/-- A store that answers with statistics can be reached, and they are those of the indices that the
pattern selects. -/
theorem stats_eq_ok_iff {pattern : String} {listed : Table IndexStats} :
    store.stats pattern = .ok listed ↔
      store.faults.unavailable = false ∧ listed = (store.selected pattern).map Index.stats := by
  cases hunavailable : store.faults.unavailable <;>
    simp [stats, available, hunavailable, bind, Except.bind, pure, Except.pure, eq_comm]

end Store

namespace Naming

variable {naming : Naming} {store : Store} {name : String}

/-- A listing of the rotated indices is made of the statistics that the pattern selects. -/
theorem rotatedIndices_eq_ok_iff {listed : Table IndexStats} :
    naming.rotatedIndices store = .ok listed ↔
      ∃ found, store.stats naming.rotatedPattern = .ok found ∧
        listed = found.filter fun name _ => naming.isRotated name := by
  rw [rotatedIndices]
  cases store.stats naming.rotatedPattern <;> simp [bind, Except.bind, pure, Except.pure, eq_comm]

theorem rotatedNames_eq_ok_iff {names : List String} :
    naming.rotatedNames store = .ok names ↔
      ∃ listed, naming.rotatedIndices store = .ok listed ∧ names = listed.keys := by
  rw [rotatedNames]
  cases naming.rotatedIndices store <;> simp [bind, Except.bind, pure, Except.pure, eq_comm]

/-- A store that answers with a listing can be reached. -/
theorem reached_of_rotatedIndices {listed : Table IndexStats}
    (h : naming.rotatedIndices store = .ok listed) : store.faults.unavailable = false := by
  obtain ⟨found, hfound, -⟩ := rotatedIndices_eq_ok_iff.mp h
  exact (Store.stats_eq_ok_iff.mp hfound).1

theorem reached_of_rotatedNames {names : List String}
    (h : naming.rotatedNames store = .ok names) : store.faults.unavailable = false := by
  obtain ⟨listed, hlisted, -⟩ := rotatedNames_eq_ok_iff.mp h
  exact reached_of_rotatedIndices hlisted

/-- A listing of the rotated indices holds indices that exist and are rotated, each under its
name. -/
theorem get?_rotatedIndices {listed : Table IndexStats} {stats : IndexStats}
    (h : naming.rotatedIndices store = .ok listed) (hstats : listed.get? name = some stats) :
    stats.name = name ∧ naming.isRotated name = true ∧ store.indices.contains name = true := by
  obtain ⟨found, hfound, rfl⟩ := rotatedIndices_eq_ok_iff.mp h
  obtain ⟨-, rfl⟩ := Store.stats_eq_ok_iff.mp hfound
  rw [Table.get?_filter, Option.filter_eq_some_iff, Table.get?_map, Option.map_eq_some_iff,
    Store.selected] at hstats
  obtain ⟨⟨index, hindex, rfl⟩, hrotated⟩ := hstats
  rw [Table.get?_filter, Option.filter_eq_some_iff] at hindex
  exact ⟨rfl, hrotated, Table.contains_eq_true_iff.mpr ⟨index, hindex.1⟩⟩

/-- The names listed are names of rotated indices that exist. -/
theorem of_mem_rotatedNames {names : List String} (h : naming.rotatedNames store = .ok names)
    (hname : name ∈ names) :
    naming.isRotated name = true ∧ store.indices.contains name = true := by
  obtain ⟨listed, hlisted, rfl⟩ := rotatedNames_eq_ok_iff.mp h
  obtain ⟨stats, hstats⟩ := Table.mem_keys_iff.mp hname
  exact (get?_rotatedIndices hlisted hstats).2

end Naming

namespace Deployment

variable {d : Deployment} {desk : Desk}

/-! ## Creating an index -/

/-- Creating an index with its mapping changes nothing, or creates the index under a free name; what
is not confirmed is named in the failure, and the mapping is there if nothing failed. -/
theorem createWithMapping_cases (d : Deployment) (name : String) (settings : IndexSettings)
    (desk : Desk) :
    (∃ e after, Effect.on (d.createWithMapping name settings) desk = (.error e, after) ∧
      after.store = desk.store) ∨
    desk.store.Free name ∧ desk.store.faults.unavailable = false ∧
      ((∃ step after, Effect.on (d.createWithMapping name settings) desk =
          (.error (.notAcknowledged step name), after) ∧
            after.store = desk.store.withIndex name settings) ∨
        ∃ after, Effect.on (d.createWithMapping name settings) desk = (.ok (), after) ∧
          after.store = desk.store.withIndex name settings (some d.mapping)) := by
  simp only [createWithMapping, Effect.on_bind, Action.on_onStore]
  rcases Store.create_cases name settings desk.store with ⟨e, hcreate⟩ | ⟨hfree, hreached, hcreate⟩
  · rw [hcreate]
    exact .inl ⟨_, _, rfl, rfl⟩
  · rw [hcreate]
    refine .inr ⟨hfree, hreached, ?_⟩
    cases desk.store.faults.acknowledgesCreates with
    | false => exact .inl ⟨_, _, rfl, rfl⟩
    | true =>
      have hexists : (desk.store.withIndex name settings).indices.contains name = true :=
        desk.store.contains_withIndex_self name settings none
      have hreached' : (desk.store.withIndex name settings).faults.unavailable = false := hreached
      simp only [if_true, Effect.on_bind, Action.on_onStore, Store.on_putMapping, hexists,
        hreached', Bool.false_eq_true, if_false]
      cases (desk.store.withIndex name settings).faults.acknowledgesMappings with
      | true => exact .inr ⟨_, rfl, Store.modify_withIndex ..⟩
      | false => exact .inl ⟨_, _, rfl, rfl⟩

/-! ## Moving the alias -/

/-- No index is missing that moving an alias binds to, if the new index exists. -/
theorem find?_cutoverActions {store : Store} {new : String}
    (hexists : store.indices.contains new = true) (aliasName : String) (old : Option String) :
    ((cutoverActions aliasName new old).filterMap AliasAction.added?).find?
      (fun index => !store.indices.contains index) = none := by
  cases old <;> simp [cutoverActions, AliasAction.added?, hexists]

/-- Moving an alias to an index that exists moves it or leaves the store as it is. -/
theorem cutover_cases (aliasName : String) {new : String} (old : Option String) {desk : Desk}
    (hexists : desk.store.indices.contains new = true)
    (hreached : desk.store.faults.unavailable = false) :
    (∃ after, Effect.on (cutover aliasName new old) desk =
        (.error (.notAcknowledged "update_aliases" new), after) ∧ after.store = desk.store) ∨
      ∃ after, Effect.on (cutover aliasName new old) desk = (.ok (), after) ∧
        after.store = { desk.store with
          aliases := desk.store.aliases.apply (cutoverActions aliasName new old) } := by
  simp only [cutover, Effect.on_bind, Action.on_onStore, Store.on_updateAliases,
    find?_cutoverActions hexists, hreached, Bool.false_eq_true, if_false]
  cases desk.store.faults.acknowledgesAliases with
  | true => exact .inr ⟨_, rfl, rfl⟩
  | false => exact .inl ⟨_, rfl, rfl⟩

/-- A moved alias is bound to the new index only, and all other aliases are bound as before. -/
theorem targets_cutover {aliases : AliasTable} {aliasName : String} {old : Option String}
    (h : aliases.targets aliasName = old.toList) (new other : String) :
    (aliases.apply (cutoverActions aliasName new old)).targets other =
      if other = aliasName then [new] else aliases.targets other := by
  split
  · rename_i hother
    subst hother
    cases old with
    | none => exact AliasTable.targets_bind h
    | some index => exact AliasTable.targets_move h
  · rename_i hother
    refine AliasTable.targets_apply_of_forall fun index => ?_
    cases old <;> simp [cutoverActions, hother]

/-! ## Rotating -/

/-- The settings of a new rotated index. -/
def rotatedSettings (d : Deployment) : IndexSettings :=
  { shards := d.shards, replicas := d.replicas }

/-- What a rotation answers and leaves of a store. -/
inductive Rotation (d : Deployment) (store : Store) : Except Failure String → Store → Prop where
  /-- it fails before it changed anything -/
  | refused (e : Failure) : Rotation d store (.error e) store
  /-- it fails when the new index is there, with its mapping or without -/
  | stranded (names : List String) (step : String) (mapping : Option Json) :
      d.naming.rotatedNames store = .ok names → store.Free (d.naming.nextName names) →
      mapping = none ∨ mapping = some d.mapping →
      Rotation d store (.error (.notAcknowledged step (d.naming.nextName names)))
        (store.withIndex (d.naming.nextName names) d.rotatedSettings mapping)
  /-- the alias leads to the new index -/
  | moved (old : Target) (names : List String) :
      store.currentTarget d.naming.writeAlias = .ok old →
      d.naming.rotatedNames store = .ok names → store.Free (d.naming.nextName names) →
      Rotation d store (.ok (d.naming.nextName names))
        { store.withIndex (d.naming.nextName names) d.rotatedSettings (some d.mapping) with
          aliases := store.aliases.apply
            (cutoverActions d.naming.writeAlias (d.naming.nextName names) old.index?) }

theorem rotate_rotation (d : Deployment) (desk : Desk) :
    d.Rotation desk.store (Effect.on d.rotate desk).1 (Effect.on d.rotate desk).2.store := by
  simp only [rotate, Effect.on_bind, Action.on_ask]
  cases htarget : desk.store.currentTarget d.naming.writeAlias with
  | error e => exact .refused e
  | ok old =>
    dsimp only
    cases hnames : d.naming.rotatedNames desk.store with
    | error e => exact .refused e
    | ok names =>
      simp only [Action.on_log, createIndex]
      generalize hlogged : { desk with log := _ } = logged
      have hstore : logged.store = desk.store := by rw [← hlogged]
      -- from here on the new index may exist, and it stays whatever follows
      rcases d.createWithMapping_cases (d.naming.nextName names)
          { shards := d.shards, replicas := d.replicas } logged with
        ⟨e, after, hcreate, hafter⟩ |
          ⟨hfree, hreached, ⟨step, after, hcreate, hafter⟩ | ⟨after, hcreate, hafter⟩⟩
      · rw [hcreate]
        dsimp only
        rw [hafter, hstore]
        exact .refused e
      · rw [hcreate]
        dsimp only
        rw [hafter, hstore]
        exact .stranded names step none hnames (hstore ▸ hfree) (.inl rfl)
      · rw [hcreate]
        dsimp only
        have hexists : after.store.indices.contains (d.naming.nextName names) = true := by
          rw [hafter]
          exact logged.store.contains_withIndex_self _ _ _
        have hreached' : after.store.faults.unavailable = false := by
          rw [hafter]
          exact hreached
        rcases cutover_cases d.naming.writeAlias old.index? hexists hreached' with
          ⟨last, hcutover, hlast⟩ | ⟨last, hcutover, hlast⟩
        · rw [hcutover]
          dsimp only
          rw [hlast, hafter, hstore]
          exact .stranded names _ _ hnames (hstore ▸ hfree) (.inr rfl)
        · rw [hcutover]
          dsimp only
          obtain ⟨recorded, hrecord, hrecorded⟩ := Action.on_record d
            { source := rotationSource,
              message := rotationMessage old.index? (d.naming.nextName names) } last
          rw [hrecord]
          simp only [Effect.on_pure]
          rw [hrecorded, hlast, hafter, hstore]
          exact .moved old names htarget hnames (hstore ▸ hfree)

/-! ## What is entered into the record -/

/-- The entry about a rotation: the first one says where the alias leads, each later one from where
to where it was moved. -/
def rotationEntry : Option String → String → Activity
  | none, new =>
    { source := "deflector", message := "Initialized deflector with first target <" ++ new ++ ">" }
  | some old, new =>
    { source := "deflector", message := "Cycled deflector from <" ++ old ++ "> to <" ++ new ++ ">" }

/-- The entry about a rotation that failed. -/
def rotationFailureEntry (d : Deployment) (e : Failure) : Activity where
  source := "deflector"
  message := "Cycling deflector <" ++ d.naming.writeAlias ++ "> failed: " ++ e.message

theorem rotationEntry_eq (old : Option String) (new : String) :
    rotationEntry old new = { source := rotationSource, message := rotationMessage old new } := by
  cases old <;> rfl

theorem rotationFailureEntry_eq (d : Deployment) (e : Failure) :
    d.rotationFailureEntry e = { source := rotationSource, message := d.rotationFailure e } := rfl

/-- A rotation that succeeds stays as it is, and one that fails is followed by a line in the log and
an entry in the record about its failure. -/
theorem cycle_cases (d : Deployment) (desk : Desk) :
    (∃ new after, Effect.on d.rotate desk = (.ok new, after) ∧
        Effect.on d.cycle desk = (.ok new, after)) ∨
      ∃ e failed after, Effect.on d.rotate desk = (.error e, failed) ∧
        Effect.on (Action.record d (d.rotationFailureEntry e))
          { failed with log := failed.log ++ [{ level := .error, text := d.rotationFailure e }] } =
            (.ok (), after) ∧
        after.store = failed.store ∧ Effect.on d.cycle desk = (.error e, after) := by
  simp only [cycle, Effect.on_tryCatch, Effect.on_bind, Action.on_log]
  rcases Effect.on d.rotate desk with ⟨e | new, failed⟩
  · obtain ⟨after, hrecord, hafter⟩ := Action.on_record d (d.rotationFailureEntry e)
      { failed with log := failed.log ++ [{ level := .error, text := d.rotationFailure e }] }
    refine .inr ⟨e, failed, after, rfl, hrecord, hafter, ?_⟩
    dsimp only
    rw [← rotationFailureEntry_eq, hrecord]
    rfl
  · exact .inl ⟨new, failed, rfl, rfl⟩

/-- A rotation whose failure is entered into log and record does the same to the store. -/
theorem cycle_rotation (d : Deployment) (desk : Desk) :
    d.Rotation desk.store (Effect.on d.cycle desk).1 (Effect.on d.cycle desk).2.store := by
  have hrotation := d.rotate_rotation desk
  rcases d.cycle_cases desk with
    ⟨new, after, hrotate, hcycle⟩ | ⟨e, failed, after, hrotate, -, hstore, hcycle⟩
  · rw [hrotate] at hrotation
    rw [hcycle]
    exact hrotation
  · rw [hrotate] at hrotation
    rw [hcycle]
    dsimp only at hrotation ⊢
    rw [hstore]
    exact hrotation

/-! ## What a rotation keeps and moves -/

namespace Rotation

variable {store after : Store} {result : Except Failure String}

/-- Every index outlives a rotation. -/
theorem contains {name : String} (h : d.Rotation store result after)
    (hexists : store.indices.contains name = true) : after.indices.contains name = true := by
  cases h with
  | refused => exact hexists
  | stranded => exact Store.contains_withIndex hexists
  | moved => exact Store.contains_withIndex hexists

/-- A rotation that fails moves no alias. -/
theorem aliases_of_error {e : Failure} (h : d.Rotation store (.error e) after) :
    after.aliases = store.aliases := by
  cases h <;> rfl

/-- A rotation that succeeds adds the next index, whose name was free, and moves the alias to it. -/
theorem of_ok {new : String} (h : d.Rotation store (.ok new) after) :
    ∃ old names, store.currentTarget d.naming.writeAlias = .ok old ∧
      d.naming.rotatedNames store = .ok names ∧ new = d.naming.nextName names ∧ store.Free new ∧
      after = { store.withIndex new d.rotatedSettings (some d.mapping) with
        aliases := store.aliases.apply
          (cutoverActions d.naming.writeAlias new old.index?) } := by
  cases h with
  | moved old names hold hnames hfree => exact ⟨old, names, hold, hnames, rfl, hfree, rfl⟩

/-- A rotation that succeeds moves the alias to the new index. -/
theorem targets_of_ok {new : String} (h : d.Rotation store (.ok new) after) :
    after.aliases.targets d.naming.writeAlias = [new] := by
  obtain ⟨old, names, hold, -, -, -, rfl⟩ := h.of_ok
  rw [targets_cutover (Store.targets_of_currentTarget hold), if_pos rfl]

end Rotation

end Deployment

end RollingIndex
