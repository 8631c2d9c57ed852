import RollingIndex.Proofs.Ages
import RollingIndex.Proofs.Ledgers

/-!
# What a sweep does

A sweep that can reach the store and finds the alias bound picks the oldest indices and deals with
them one by one. What becomes of an index is known before (`SweepFate`): the one that the alias
leads to is skipped, one whose deletion is told to fail stays, and any other is deleted, for every
index picked exists and is picked once. So there is an exact account of a sweep
(`Deployment.on_sweep`): its report, the store, the date ranges and the record after it. What other
modules use of it is `Deployment.sweep_cases`.
-/

namespace RollingIndex

/-! ## The store without some of its indices -/

namespace Store

/-- The store after several indices were deleted. -/
def withoutIndices (store : Store) (names : List String) : Store := names.foldl withoutIndex store

theorem get?_withoutIndices (store : Store) (names : List String) (name : String) :
    (store.withoutIndices names).indices.get? name =
      if name ∈ names then none else store.indices.get? name := by
  induction names generalizing store with
  | nil => simp [withoutIndices]
  | cons deleted names ih =>
    refine (ih (store.withoutIndex deleted)).trans ?_
    by_cases hname : name = deleted <;> by_cases hrest : name ∈ names <;>
      simp [withoutIndex, hname, hrest]

theorem contains_withoutIndices_iff {store : Store} {names : List String} {name : String} :
    (store.withoutIndices names).indices.contains name = true ↔
      name ∉ names ∧ store.indices.contains name = true := by
  rw [Table.contains, get?_withoutIndices, Table.contains]
  by_cases hname : name ∈ names
  · simp [hname]
  · simp [hname]

theorem mem_targets_withoutIndices {store : Store} {names : List String}
    {aliasName index : String} :
    index ∈ (store.withoutIndices names).aliases.targets aliasName ↔
      index ∉ names ∧ index ∈ store.aliases.targets aliasName := by
  induction names generalizing store with
  | nil => simp [withoutIndices]
  | cons deleted names ih =>
    refine (@ih (store.withoutIndex deleted)).trans ?_
    rw [withoutIndex, AliasTable.mem_targets_withoutIndex, List.mem_cons, not_or, and_left_comm,
      and_assoc]

/-- Nothing changes but indices and aliases. -/
theorem withoutIndices_frame (store : Store) (names : List String) :
    (store.withoutIndices names).nextOrder = store.nextOrder ∧
      (store.withoutIndices names).nodes = store.nodes ∧
      (store.withoutIndices names).trace = store.trace ∧
      (store.withoutIndices names).faults = store.faults := by
  induction names generalizing store with
  | nil => exact ⟨rfl, rfl, rfl, rfl⟩
  | cons deleted names ih => exact ih (store.withoutIndex deleted)

theorem withoutIndices_append (store : Store) (names names' : List String) :
    store.withoutIndices (names ++ names') =
      (store.withoutIndices names).withoutIndices names' :=
  List.foldl_append

/-- The failure of a deletion that is told to fail. -/
def deletionTimedOut (name : String) : Failure :=
  .storeUnavailable ("delete of <" ++ name ++ "> timed out")

end Store

/-! ## What becomes of an index -/

/-- What becomes of an index that a sweep picked. -/
inductive SweepFate where
  /-- it is deleted -/
  | deleted
  /-- it is skipped -/
  | skipped
  /-- it could not be deleted -/
  | failed
deriving DecidableEq

/-- What becomes of an index, if the alias leads to `current` and the deletion of the indices
`failing` fails. -/
def sweepFate (current : String) (failing : NameSet) (name : String) : SweepFate :=
  if name = current then .skipped else if failing.contains name then .failed else .deleted

/-- The indices of which the same becomes, in order. -/
def withFate (current : String) (failing : NameSet) (fate : SweepFate) (names : List String) :
    List String :=
  names.filter fun name => sweepFate current failing name = fate

/-- What the record says of an index that was picked. -/
def sweepMessages (current : String) (failing : NameSet) (name : String) : List String :=
  match sweepFate current failing name with
  | .deleted => [Deployment.deletingMessage name]
  | .skipped => []
  | .failed =>
    [Deployment.deletingMessage name,
      Deployment.deleteFailedMessage name (Store.deletionTimedOut name)]

/-- The report of a sweep that dealt with some more indices. -/
def SweepReport.extended (report : SweepReport) (current : String) (failing : NameSet)
    (names : List String) : SweepReport :=
  { report with
    deleted := report.deleted ++ withFate current failing .deleted names
    skipped := report.skipped ++ withFate current failing .skipped names
    failed := report.failed ++ withFate current failing .failed names }

section

variable {current : String} {failing : NameSet} {names : List String} {name : String}
  {fate : SweepFate}

theorem sweepFate_eq_deleted_iff :
    sweepFate current failing name = .deleted ↔
      name ≠ current ∧ failing.contains name = false := by
  rw [sweepFate]
  by_cases hcurrent : name = current <;> cases failing.contains name <;> simp [hcurrent]

theorem sweepFate_eq_skipped_iff : sweepFate current failing name = .skipped ↔ name = current := by
  rw [sweepFate]
  by_cases hcurrent : name = current <;> cases failing.contains name <;> simp [hcurrent]

theorem sweepFate_eq_failed_iff :
    sweepFate current failing name = .failed ↔
      name ≠ current ∧ failing.contains name = true := by
  rw [sweepFate]
  by_cases hcurrent : name = current <;> cases failing.contains name <;> simp [hcurrent]

theorem mem_withFate_iff :
    name ∈ withFate current failing fate names ↔
      name ∈ names ∧ sweepFate current failing name = fate := by
  rw [withFate, List.mem_filter, decide_eq_true_iff]

theorem withFate_singleton (current : String) (failing : NameSet) (fate : SweepFate)
    (name : String) :
    withFate current failing fate [name] =
      if sweepFate current failing name = fate then [name] else [] := by
  rw [withFate, List.filter_cons, List.filter_nil]
  simp only [decide_eq_true_iff]

theorem withFate_cons (current : String) (failing : NameSet) (fate : SweepFate) (name : String)
    (names : List String) :
    withFate current failing fate (name :: names) =
      withFate current failing fate [name] ++ withFate current failing fate names :=
  List.filter_append [name] names

@[simp] theorem SweepReport.extended_nil (report : SweepReport) (current : String)
    (failing : NameSet) : report.extended current failing [] = report := by
  simp [extended, withFate]

/-- Dealing with some indices and then with others is dealing with all of them. -/
theorem SweepReport.extended_extended (report : SweepReport) (current : String) (failing : NameSet)
    (name : String) (names : List String) :
    (report.extended current failing [name]).extended current failing names =
      report.extended current failing (name :: names) := by
  simp only [extended, withFate_cons _ _ _ name names, List.append_assoc]

/-- Every index picked is in one of the three lists, and in one only. -/
theorem withFate_perm (current : String) (failing : NameSet) (names : List String) :
    (withFate current failing .deleted names ++ withFate current failing .skipped names ++
      withFate current failing .failed names).Perm names := by
  have hkept : ∀ {fate}, fate ≠ .deleted → withFate current failing fate names =
      (names.filter fun name => !decide (sweepFate current failing name = .deleted)).filter
        fun name => decide (sweepFate current failing name = fate) := by
    intro fate hfate
    rw [withFate, List.filter_filter]
    refine List.filter_congr fun name _ => ?_
    by_cases h : sweepFate current failing name = fate <;> simp [h, hfate]
  have hfailed : withFate current failing .failed names =
      (names.filter fun name => !decide (sweepFate current failing name = .deleted)).filter
        fun name => !decide (sweepFate current failing name = .skipped) := by
    rw [hkept (by decide)]
    refine List.filter_congr fun name hname => ?_
    have hne := (List.mem_filter.mp hname).2
    cases hfate : sweepFate current failing name <;> simp_all
  rw [hkept (by decide : SweepFate.skipped ≠ .deleted), hfailed, List.append_assoc]
  exact ((List.filter_append_perm _ _).append_left _).trans (List.filter_append_perm _ _)

end

/-! ## What is done at a desk -/

namespace Deployment

variable {d : Deployment} {desk middle after : Desk}

/-- The entry of a sweep with a message. -/
def sweepEntry (message : String) : Activity where
  source := sweepSource
  message := message

/-- Some indices were deleted and some messages were entered into the record. -/
structure Swept (d : Deployment) (deleted messages : List String) (desk after : Desk) : Prop where
  /-- the store is without the indices -/
  store : after.store = desk.store.withoutIndices deleted
  /-- their date ranges are forgotten, and no others -/
  ranges : ∀ name, after.ledger.ranges.get? name =
    if name ∈ deleted then none else desk.ledger.ranges.get? name
  /-- the messages are in the record, if the record is kept in the ledger -/
  activity : after.ledger.activity =
    desk.ledger.activity ++ d.kept (messages.map sweepEntry)

namespace Swept

variable {deleted deleted' messages messages' : List String}

/-- Nothing was done that store and ledger show. -/
theorem refl (d : Deployment) (hstore : after.store = desk.store)
    (hledger : after.ledger = desk.ledger) : d.Swept [] [] desk after where
  store := hstore
  ranges name := by simp [hledger]
  activity := by simp [hledger]

/-- Where nothing was deleted and entered, store and ledger are as before. -/
theorem unchanged (h : d.Swept [] [] desk after) :
    after.store = desk.store ∧ after.ledger = desk.ledger := by
  have hranges : after.ledger.ranges = desk.ledger.ranges := Table.ext_get? fun name => by
    rw [h.ranges, if_neg List.not_mem_nil]
  have hactivity : after.ledger.activity = desk.ledger.activity := by
    rw [h.activity, List.map_nil, kept_nil, List.append_nil]
  refine ⟨h.store, ?_⟩
  cases hledger : after.ledger
  cases hledger' : desk.ledger
  rw [hledger, hledger'] at hranges hactivity
  exact congr (congrArg Ledger.mk hranges) hactivity

/-- What was done is done one after the other. -/
theorem trans (hfirst : d.Swept deleted messages desk middle)
    (hsecond : d.Swept deleted' messages' middle after) :
    d.Swept (deleted ++ deleted') (messages ++ messages') desk after where
  store := by rw [hsecond.store, hfirst.store, Store.withoutIndices_append]
  ranges name := by
    rw [hsecond.ranges, hfirst.ranges]
    by_cases hname : name ∈ deleted <;> by_cases hname' : name ∈ deleted' <;> simp [hname, hname']
  activity := by
    rw [hsecond.activity, hfirst.activity, List.map_append, kept_append, List.append_assoc]

end Swept

end Deployment

theorem Action.on_removeRange (index : String) (desk : Desk) :
    ∃ after : Desk, Effect.on (removeRange index) desk = (.ok (), after) ∧
      after.store = desk.store ∧
      after.ledger = { desk.ledger with ranges := desk.ledger.ranges.erase index } := by
  simp only [removeRange, Effect.on_bind, Effect.on_get]
  cases hcontains : desk.ledger.ranges.contains index with
  | true => exact ⟨_, rfl, rfl, rfl⟩
  | false =>
    refine ⟨_, rfl, rfl, ?_⟩
    -- where there is no range, forgetting it changes nothing
    have herase : desk.ledger.ranges.erase index = desk.ledger.ranges := by
      refine Table.ext_get? fun name => ?_
      rw [Table.get?_erase]
      split
      · rename_i hname
        rw [hname, Store.contains_eq_false_iff.mp hcontains]
      · rfl
    rw [herase]

namespace Deployment

variable {d : Deployment} {desk : Desk} {current : String} {names : List String}

theorem on_noteSweep (d : Deployment) (level : LogLevel) (message : String) (desk : Desk) :
    ∃ after : Desk, Effect.on (d.noteSweep level message) desk = (.ok (), after) ∧
      d.Swept [] [message] desk after := by
  simp only [noteSweep, Effect.on_bind, Action.on_log]
  generalize hlogged : { desk with log := _ } = logged
  have hledger := d.ledger_record (sweepEntry message) logged
  obtain ⟨after, hrecord, hafter⟩ := Action.on_record d (sweepEntry message) logged
  rw [sweepEntry] at hledger hrecord
  rw [hrecord] at hledger ⊢
  refine ⟨after, rfl, ?_, ?_, ?_⟩
  · rw [hafter, ← hlogged]
    rfl
  · intro name
    rw [hledger, ranges_entered, ← hlogged]
    simp
  · rw [hledger, activity_entered, ← hlogged]
    rfl

/-- What is done about one index picked, in a store that can be reached and has it. -/
theorem on_sweepIndex (d : Deployment) (current : String) (report : SweepReport) {name : String}
    (hreached : desk.store.faults.unavailable = false)
    (hexists : desk.store.indices.contains name = true) :
    ∃ after, Effect.on (d.sweepIndex current report name) desk =
        (.ok (report.extended current desk.store.faults.failingDeletes [name]), after) ∧
      d.Swept (withFate current desk.store.faults.failingDeletes .deleted [name])
        (sweepMessages current desk.store.faults.failingDeletes name) desk after := by
  rw [SweepReport.extended, sweepMessages, withFate_singleton, withFate_singleton,
    withFate_singleton, sweepIndex]
  cases hfate : sweepFate current desk.store.faults.failingDeletes name with
  | skipped =>
    rw [if_pos (sweepFate_eq_skipped_iff.mp hfate)]
    simp only [reduceCtorEq, if_true, if_false, List.append_nil]
    exact ⟨_, rfl, Swept.refl d rfl rfl⟩
  | failed =>
    obtain ⟨hcurrent, hfailing⟩ := sweepFate_eq_failed_iff.mp hfate
    rw [if_neg hcurrent]
    obtain ⟨noted, hnote, hnoted⟩ := d.on_noteSweep .info (deletingMessage name) desk
    have hstore : noted.store = desk.store := hnoted.store
    obtain ⟨after, hnote', hafter⟩ :=
      d.on_noteSweep .error (deleteFailedMessage name (Store.deletionTimedOut name)) noted
    -- the deletion is the only step that may fail, and its failure is noted
    have hdelete : Effect.on (Store.delete name) noted.store =
        (.error (Store.deletionTimedOut name), noted.store) := by
      rw [Store.on_delete, hstore, hreached, hfailing]
      rfl
    simp only [Effect.on_bind, hnote, Effect.on_tryCatch, Action.on_onStore, hdelete, hnote',
      Effect.on_pure]
    exact ⟨after, by simp, hnoted.trans hafter⟩
  | deleted =>
    obtain ⟨hcurrent, hfailing⟩ := sweepFate_eq_deleted_iff.mp hfate
    rw [if_neg hcurrent]
    obtain ⟨noted, hnote, hnoted⟩ := d.on_noteSweep .info (deletingMessage name) desk
    have hstore : noted.store = desk.store := hnoted.store
    have hdelete : Effect.on (Store.delete name) noted.store =
        (.ok (), desk.store.withoutIndex name) := by
      rw [hstore, Store.on_delete, hreached, hfailing, hexists]
      rfl
    obtain ⟨after, hremove, hafter, hledger⟩ :=
      Action.on_removeRange name { noted with store := desk.store.withoutIndex name }
    simp only [Effect.on_bind, hnote, Effect.on_tryCatch, Action.on_onStore, hdelete, hremove,
      Effect.on_pure]
    have hgone : d.Swept [name] [] noted after := by
      refine ⟨?_, fun other => ?_, ?_⟩
      · rw [hafter, hstore]
        rfl
      · rw [hledger, Table.get?_erase]
        simp
      · rw [hledger]
        simp
    exact ⟨after, by simp, hnoted.trans hgone⟩

/-- **What becomes of the indices picked** is known beforehand, and it is done in order. -/
theorem foldlM_sweepIndex (d : Deployment) (current : String) (report : SweepReport)
    (hreached : desk.store.faults.unavailable = false) (hnodup : names.Nodup)
    (hexists : ∀ name ∈ names, desk.store.indices.contains name = true) :
    ∃ after, Effect.on (names.foldlM (d.sweepIndex current) report) desk =
        (.ok (report.extended current desk.store.faults.failingDeletes names), after) ∧
      d.Swept (withFate current desk.store.faults.failingDeletes .deleted names)
        (names.flatMap (sweepMessages current desk.store.faults.failingDeletes)) desk after := by
  induction names generalizing report desk with
  | nil =>
    rw [SweepReport.extended_nil]
    exact ⟨desk, rfl, Swept.refl d rfl rfl⟩
  | cons name names ih =>
    obtain ⟨hname, hnodup⟩ := List.nodup_cons.mp hnodup
    obtain ⟨middle, hfirst, hswept⟩ :=
      d.on_sweepIndex current report hreached (hexists name (List.mem_cons_self ..))
    have hfaults : middle.store.faults = desk.store.faults := by
      rw [hswept.store]
      exact (desk.store.withoutIndices_frame _).2.2.2
    -- the other indices are still there, for none of them is the first
    have hexists' : ∀ other ∈ names, middle.store.indices.contains other = true := by
      intro other hother
      have hne : other ≠ name := fun heq => hname (heq ▸ hother)
      rw [hswept.store, Store.contains_withoutIndices_iff]
      exact ⟨fun hmem => hne (List.mem_singleton.mp (mem_withFate_iff.mp hmem).1),
        hexists other (List.mem_cons_of_mem _ hother)⟩
    obtain ⟨after, hrest, hswept'⟩ :=
      ih (report.extended current desk.store.faults.failingDeletes [name])
        (hfaults ▸ hreached) hnodup hexists'
    rw [hfaults] at hrest hswept'
    refine ⟨after, ?_, ?_⟩
    · rw [List.foldlM_cons, Effect.on_bind, hfirst]
      dsimp only
      rw [hrest, SweepReport.extended_extended]
    · rw [withFate_cons, List.flatMap_cons]
      exact hswept.trans hswept'

/-! ## The whole sweep -/

theorem named_of_rotatedIndices {store : Store} {listed : Table IndexStats}
    (hlisted : d.naming.rotatedIndices store = .ok listed) : listed.Named := fun hstats =>
  (Naming.get?_rotatedIndices hlisted hstats).1

/-- The indices that a sweep picks of a listing. -/
def picked (d : Deployment) (listed : Table IndexStats) : List String :=
  oldestIndices listed.values (listed.size - d.maxIndices)

/-- If there are not too many indices none is picked. -/
theorem picked_eq_nil {listed : Table IndexStats} (hfew : listed.size ≤ d.maxIndices) :
    d.picked listed = [] := by
  rw [picked, Nat.sub_eq_zero_of_le hfew, oldestIndices, List.take_zero, List.map_nil]

/-- What is picked is rotated and exists. -/
theorem of_mem_picked {store : Store} {listed : Table IndexStats} {name : String}
    (hlisted : d.naming.rotatedIndices store = .ok listed) (hname : name ∈ d.picked listed) :
    d.naming.isRotated name = true ∧ store.indices.contains name = true := by
  obtain ⟨stats, hstats⟩ := Table.contains_eq_true_iff.mp
    (Table.contains_of_mem_oldestIndices (named_of_rotatedIndices hlisted) hname)
  exact (Naming.get?_rotatedIndices hlisted hstats).2

theorem nodup_picked {store : Store} {listed : Table IndexStats}
    (hlisted : d.naming.rotatedIndices store = .ok listed) : (d.picked listed).Nodup :=
  Table.nodup_oldestIndices (named_of_rotatedIndices hlisted) _

/-- The report of a sweep that picked some indices of a listing. -/
def sweepReport (d : Deployment) (current : String) (failing : NameSet)
    (listed : Table IndexStats) : SweepReport :=
  SweepReport.extended { indexCount := listed.size, maxIndices := d.maxIndices } current failing
    (d.picked listed)

/-- What the record says when there are too many indices. -/
def exceededMessage (count limit : Nat) : String :=
  "Number of indices (" ++ toString count ++ ") higher than limit (" ++ toString limit ++
    "). Deleting " ++ toString (count - limit) ++ " indices."

/-- What a sweep enters into the record: nothing if there are not too many indices. -/
def sweepRecord (d : Deployment) (current : String) (failing : NameSet)
    (listed : Table IndexStats) : List String :=
  if listed.size ≤ d.maxIndices then []
  else
    exceededMessage listed.size d.maxIndices ::
      (d.picked listed).flatMap (sweepMessages current failing)

theorem targets_of_currentIndex {store : Store} {current : String}
    (h : d.currentIndex store = .ok current) :
    store.aliases.targets d.naming.writeAlias = [current] := by
  rw [currentIndex] at h
  cases htarget : store.currentTarget d.naming.writeAlias with
  | error e =>
    rw [htarget] at h
    cases h
  | ok target =>
    rw [htarget] at h
    cases target with
    | unbound => cases h
    | bound index =>
      cases h
      exact Store.targets_of_currentTarget htarget

/-- A store that can be reached leads to the one index that the alias is bound to. -/
theorem currentIndex_of_targets {store : Store} {current : String}
    (hreached : store.faults.unavailable = false)
    (h : store.aliases.targets d.naming.writeAlias = [current]) :
    d.currentIndex store = .ok current := by
  simp only [currentIndex, Store.currentTarget, Store.aliasTargets, Store.available, hreached, h,
    Bool.false_eq_true, if_false, bind, Except.bind, pure, Except.pure]

/-- **A sweep that finds the alias bound and gets a listing** deals with the indices that it picks
of the listing. -/
theorem sweep_succeeds (d : Deployment) (desk : Desk) {current : String}
    {listed : Table IndexStats} (hcurrent : d.currentIndex desk.store = .ok current)
    (hlisted : d.naming.rotatedIndices desk.store = .ok listed) :
    ∃ after, Effect.on d.sweep desk =
        (.ok (d.sweepReport current desk.store.faults.failingDeletes listed), after) ∧
      d.Swept (withFate current desk.store.faults.failingDeletes .deleted (d.picked listed))
        (d.sweepRecord current desk.store.faults.failingDeletes listed) desk after := by
  simp only [sweep, Effect.on_bind, Action.on_ask, hcurrent, hlisted]
  rw [sweepRecord]
  split
  · rename_i hfew
    rw [sweepReport, picked_eq_nil hfew, SweepReport.extended_nil]
    exact ⟨_, rfl, Swept.refl d rfl rfl⟩
  · obtain ⟨noted, hnote, hnoted⟩ :=
      d.on_noteSweep .info (exceededMessage listed.size d.maxIndices) desk
    have hstore : noted.store = desk.store := hnoted.store
    have hreached : noted.store.faults.unavailable = false :=
      hstore ▸ Naming.reached_of_rotatedIndices hlisted
    have hexists : ∀ name ∈ d.picked listed, noted.store.indices.contains name = true :=
      fun name hname => hstore ▸ (of_mem_picked hlisted hname).2
    obtain ⟨after, hswept, hafter⟩ := d.foldlM_sweepIndex current
      { indexCount := listed.size, maxIndices := d.maxIndices } hreached
      (nodup_picked hlisted) hexists
    rw [hstore] at hswept hafter
    have hdone := hnoted.trans hafter
    rw [List.nil_append, List.singleton_append] at hdone
    refine ⟨after, (Effect.on_bind ..).trans ?_, hdone⟩
    unfold exceededMessage at hnote
    rw [hnote]
    exact hswept

/-- **What a sweep does.** It fails and changes nothing, or it deals with the indices picked. -/
theorem on_sweep (d : Deployment) (desk : Desk) :
    (∃ e, Effect.on d.sweep desk = (.error e, desk)) ∨
      ∃ current listed after, d.currentIndex desk.store = .ok current ∧
        d.naming.rotatedIndices desk.store = .ok listed ∧
        Effect.on d.sweep desk =
          (.ok (d.sweepReport current desk.store.faults.failingDeletes listed), after) ∧
        d.Swept (withFate current desk.store.faults.failingDeletes .deleted (d.picked listed))
          (d.sweepRecord current desk.store.faults.failingDeletes listed) desk after := by
  cases hcurrent : d.currentIndex desk.store with
  | error e =>
    refine .inl ⟨e, ?_⟩
    simp only [sweep, Effect.on_bind, Action.on_ask, hcurrent]
  | ok current =>
    cases hlisted : d.naming.rotatedIndices desk.store with
    | error e =>
      refine .inl ⟨e, ?_⟩
      simp only [sweep, Effect.on_bind, Action.on_ask, hcurrent, hlisted]
    | ok listed =>
      obtain ⟨after, hswept, hdone⟩ := d.sweep_succeeds desk hcurrent hlisted
      exact .inr ⟨current, listed, after, rfl, rfl, hswept, hdone⟩

/-- A sweep fails and changes nothing, or the store is without the indices that it reports as
deleted. These are rotated, and the alias does not lead to any of them. -/
theorem sweep_cases (d : Deployment) (desk : Desk) :
    (∃ e, Effect.on d.sweep desk = (.error e, desk)) ∨
      ∃ report after current, Effect.on d.sweep desk = (.ok report, after) ∧
        after.store = desk.store.withoutIndices report.deleted ∧
        desk.store.aliases.targets d.naming.writeAlias = [current] ∧
        ∀ name ∈ report.deleted, d.naming.isRotated name = true ∧ name ≠ current := by
  rcases d.on_sweep desk with hfailed | ⟨current, listed, after, hcurrent, hlisted, hswept, hdone⟩
  · exact .inl hfailed
  · refine .inr ⟨_, after, current, hswept, hdone.store, targets_of_currentIndex hcurrent,
      fun name hname => ?_⟩
    obtain ⟨hpicked, hfate⟩ := mem_withFate_iff.mp hname
    exact ⟨(of_mem_picked hlisted hpicked).1, (sweepFate_eq_deleted_iff.mp hfate).1⟩

end Deployment

end RollingIndex
