import RollingIndex.Proofs.CompleteListings
import RollingIndex.Proofs.Runs

/-!
# How many indices a sweep leaves

A sweep picks the oldest indices beyond the number to keep, and all it does is about these:

* **what a sweep that reports has done** (`Deployment.sweep_deletes_oldest`): an index picked is
  deleted, skipped or could not be deleted, and the store has lost exactly the indices deleted, so
  that as many are left as are to be kept and those that were skipped or could not be deleted;
* **a second sweep deletes nothing** (`Deployment.sweep_idempotent`): it picks those that the first
  one left of its own choice, and they are skipped and fail again.
-/

namespace RollingIndex

namespace Table

variable {listed : Table IndexStats} {names : List String}

theorem values_filter (hnamed : listed.Named) (keep : String → Bool) :
    (listed.filter fun name _ => keep name).values =
      listed.values.filter fun stats => keep stats.name := by
  rw [values, values, filter, List.filter_map]
  refine congrArg _ (List.filter_congr ?_)
  rintro ⟨name, stats⟩ hmem
  have hname : stats.name = name := hnamed (get?_eq_some_iff.mpr hmem)
  exact congrArg keep hname.symm

/-- Every name taken out of a table makes it smaller by one. -/
theorem size_filter_add {α : Type} (t : Table α) (hnodup : names.Nodup)
    (hexists : ∀ name ∈ names, t.contains name = true) :
    (t.filter fun name _ => decide (name ∉ names)).size + names.length = t.size := by
  have hout : (t.keys.filter fun name => decide (name ∈ names)).Perm names := by
    refine (List.perm_ext_iff_of_nodup (t.nodup_keys.filter _) hnodup).mpr fun name => ?_
    rw [List.mem_filter, decide_eq_true_iff, mem_keys_iff, ← contains_eq_true_iff]
    exact ⟨And.right, fun hname => ⟨hexists name hname, hname⟩⟩
  have hin : (t.filter fun name _ => decide (name ∉ names)).size =
      (t.keys.filter fun name => !decide (name ∈ names)).length := by
    rw [size, filter, keys, List.filter_map, List.length_map]
    simp only [decide_not]
    rfl
  have hkeys : t.keys.length = t.size := List.length_map _
  have hsplit := List.length_eq_length_filter_add (l := t.keys) fun name => decide (name ∈ names)
  rw [hout.length_eq] at hsplit
  omega

end Table

/-- The listing of the rotated indices loses the indices that the store loses. -/
theorem Naming.rotatedIndices_withoutIndices {naming : Naming} {store : Store}
    {listed : Table IndexStats} (hlisted : naming.rotatedIndices store = .ok listed)
    (names : List String) :
    naming.rotatedIndices (store.withoutIndices names) =
      .ok (listed.filter fun name _ => decide (name ∉ names)) := by
  have hreached := reached_of_rotatedIndices hlisted
  have hreached' : (store.withoutIndices names).faults.unavailable = false := by
    rw [(store.withoutIndices_frame names).2.2.2]
    exact hreached
  rw [naming.rotatedIndices_eq hreached, Except.ok.injEq] at hlisted
  rw [naming.rotatedIndices_eq hreached']
  refine congrArg Except.ok (Table.ext_get? fun name => ?_)
  rw [← hlisted, Table.get?_filter, Table.get?_filter, Table.get?_filter, get?_rotatedOf,
    get?_rotatedOf, Store.get?_withoutIndices]
  by_cases hname : name ∈ names
  · simp [hname]
  · simp [hname, Option.filter_filter]

section

variable {current : String} {failing : NameSet} {names : List String} {fate : SweepFate}

theorem withFate_skipped (hnodup : names.Nodup) :
    withFate current failing .skipped names = if current ∈ names then [current] else [] := by
  have hskipped : withFate current failing .skipped names =
      names.filter fun name => decide (name = current) :=
    List.filter_congr fun name _ => decide_eq_decide.mpr sweepFate_eq_skipped_iff
  rw [hskipped, List.filter_eq]
  split
  · rename_i hmem
    rw [List.count_eq_one_of_mem hnodup hmem]
    rfl
  · rename_i hmem
    rw [List.count_eq_zero_of_not_mem hmem]
    rfl

theorem withFate_failed :
    withFate current failing .failed names =
      names.filter fun name => name != current && failing.contains name := by
  refine List.filter_congr fun name _ => ?_
  rw [← Bool.coe_iff_coe]
  simp [sweepFate_eq_failed_iff]

/-- Of the indices that a sweep did not delete becomes the same when they are picked again. -/
theorem withFate_leftover (hfate : fate ≠ .deleted) :
    withFate current failing fate
        (names.filter fun name => decide (name ∉ withFate current failing .deleted names)) =
      withFate current failing fate names := by
  refine (List.filter_filter ..).trans (List.filter_congr fun name _ => ?_)
  by_cases h : sweepFate current failing name = fate
  · have hleft : name ∉ withFate current failing .deleted names := fun hmem =>
      hfate (h ▸ (mem_withFate_iff.mp hmem).2)
    rw [decide_eq_true hleft, Bool.and_true]
  · rw [decide_eq_false h, Bool.false_and]

theorem length_leftover (current : String) (failing : NameSet) (names : List String) :
    (names.filter fun name => decide (name ∉ withFate current failing .deleted names)).length +
      (withFate current failing .deleted names).length = names.length := by
  have hleft : (names.filter fun name =>
      decide (name ∉ withFate current failing .deleted names)) =
        names.filter fun name => !decide (sweepFate current failing name = .deleted) := by
    refine List.filter_congr fun name hname => ?_
    rw [← decide_not]
    exact decide_eq_decide.mpr (not_congr (mem_withFate_iff.trans (and_iff_right hname)))
  rw [hleft, Nat.add_comm, withFate]
  exact (List.length_eq_length_filter_add _).symm

/-- None of them is deleted then. -/
theorem withFate_deleted_leftover :
    withFate current failing .deleted
        (names.filter fun name => decide (name ∉ withFate current failing .deleted names)) =
      [] := by
  refine List.eq_nil_iff_forall_not_mem.mpr fun name hname => ?_
  obtain ⟨hmem, hfate⟩ := mem_withFate_iff.mp hname
  obtain ⟨hpicked, hleft⟩ := List.mem_filter.mp hmem
  exact of_decide_eq_true hleft (mem_withFate_iff.mpr ⟨hpicked, hfate⟩)

end

namespace Deployment

variable {d : Deployment} {desk after : Desk} {current : String} {listed : Table IndexStats}
  {report : SweepReport}

theorem length_picked (d : Deployment) (listed : Table IndexStats) :
    (d.picked listed).length = listed.size - d.maxIndices := by
  have hvalues : listed.values.length = listed.size := List.length_map _
  rw [picked, length_oldestIndices, hvalues]
  omega

/-- The indices deleted are as many as the listing loses. -/
theorem size_left (hlisted : d.naming.rotatedIndices desk.store = .ok listed)
    (current : String) (failing : NameSet) :
    (listed.filter fun name _ =>
        decide (name ∉ withFate current failing .deleted (d.picked listed))).size +
      (withFate current failing .deleted (d.picked listed)).length = listed.size := by
  refine listed.size_filter_add ((nodup_picked hlisted).filter _) fun name hname => ?_
  exact Table.contains_of_mem_oldestIndices (named_of_rotatedIndices hlisted)
    (mem_withFate_iff.mp hname).1

/-! ## What a sweep has done -/

/-- What a sweep has done that found too many indices in a listing and reports on them. -/
structure Retains (d : Deployment) (current : String) (listed : Table IndexStats) (desk : Desk)
    (report : SweepReport) (after : Desk) (picked : List String) : Prop where
  /-- those picked are as many as there are too many -/
  length_picked : picked.length = listed.size - d.maxIndices
  /-- they are the oldest of the listing -/
  oldest : listed.IsOldest picked
  /-- the three lists of the report are in the order in which the indices were picked -/
  ordered : report.deleted.Sublist picked ∧ report.skipped.Sublist picked ∧
    report.failed.Sublist picked
  /-- an index picked is in one of them -/
  perm : (report.deleted ++ report.skipped ++ report.failed).Perm picked
  /-- no index is in two of them or twice in one -/
  nodup : (report.deleted ++ report.skipped ++ report.failed).Nodup
  /-- the index that the alias leads to is skipped if it was picked, and no other is -/
  skipped : report.skipped = if current ∈ picked then [current] else []
  /-- of the others those stay whose deletion fails -/
  failed : report.failed = picked.filter fun name =>
    name != current && desk.store.faults.failingDeletes.contains name
  /-- the indices deleted are gone with their documents, and all others are as before -/
  indices : ∀ name, after.store.indices.get? name =
    if name ∈ report.deleted then none else desk.store.indices.get? name
  /-- the bindings to them are gone, and all others are as before -/
  bindings : ∀ aliasName name, name ∈ after.store.aliases.targets aliasName ↔
    name ∉ report.deleted ∧ name ∈ desk.store.aliases.targets aliasName
  /-- the alias of the deployment leads where it led -/
  target : after.store.aliases.targets d.naming.writeAlias = [current]
  /-- the rest of the store is as before -/
  frame : after.store.nextOrder = desk.store.nextOrder ∧ after.store.nodes = desk.store.nodes ∧
    after.store.trace = desk.store.trace ∧ after.store.faults = desk.store.faults
  /-- their date ranges are forgotten, and no others -/
  ranges : ∀ name, after.ledger.ranges.get? name =
    if name ∈ report.deleted then none else desk.ledger.ranges.get? name
  /-- as many indices are left as are to be kept, with those that were skipped or failed -/
  left : ∃ left, d.naming.rotatedIndices after.store = .ok left ∧
    left.size = d.maxIndices + report.skipped.length + report.failed.length

/-- The alias still leads to its target after a sweep, for the target is not deleted. -/
theorem targets_of_swept {failing : NameSet} {picked messages : List String}
    (htargets : desk.store.aliases.targets d.naming.writeAlias = [current])
    (hswept : d.Swept (withFate current failing .deleted picked) messages desk after) :
    after.store.aliases.targets d.naming.writeAlias = [current] := by
  have hcurrent : current ∉ withFate current failing .deleted picked := fun hmem =>
    (sweepFate_eq_deleted_iff.mp (mem_withFate_iff.mp hmem).2).1 rfl
  refine AliasTable.targets_eq_singleton_iff.mpr fun name => ?_
  rw [hswept.store, Store.mem_targets_withoutIndices, htargets, List.mem_singleton]
  exact ⟨And.right, fun hname => ⟨hname ▸ hcurrent, hname⟩⟩

/-- What a sweep does to a listing with too many indices. -/
theorem retains_of_swept
    (htargets : desk.store.aliases.targets d.naming.writeAlias = [current])
    (hlisted : d.naming.rotatedIndices desk.store = .ok listed)
    (hmany : d.maxIndices < listed.size) {messages : List String}
    (hswept : d.Swept
      (withFate current desk.store.faults.failingDeletes .deleted (d.picked listed))
      messages desk after) :
    d.Retains current listed desk
      (d.sweepReport current desk.store.faults.failingDeletes listed) after
      (d.picked listed) := by
  have hperm := withFate_perm current desk.store.faults.failingDeletes (d.picked listed)
  have hleft := Naming.rotatedIndices_withoutIndices hlisted
    (withFate current desk.store.faults.failingDeletes .deleted (d.picked listed))
  rw [← hswept.store] at hleft
  exact {
    length_picked := d.length_picked listed
    oldest := Table.isOldest_oldestIndices (named_of_rotatedIndices hlisted) _
    ordered := ⟨List.filter_sublist, List.filter_sublist, List.filter_sublist⟩
    perm := hperm
    nodup := hperm.nodup_iff.mpr (nodup_picked hlisted)
    skipped := withFate_skipped (nodup_picked hlisted)
    failed := withFate_failed
    indices := fun name => by
      rw [hswept.store, Store.get?_withoutIndices]
      rfl
    bindings := fun aliasName name => by
      rw [hswept.store]
      exact Store.mem_targets_withoutIndices
    target := targets_of_swept htargets hswept
    frame := by
      rw [hswept.store]
      exact Store.withoutIndices_frame ..
    ranges := hswept.ranges
    left := by
      refine ⟨_, hleft, ?_⟩
      -- what is left and what was deleted are all that was listed
      have hsize := size_left hlisted current desk.store.faults.failingDeletes
      have hlength := hperm.length_eq
      rw [List.length_append, List.length_append, d.length_picked listed] at hlength
      show _ = d.maxIndices +
        (withFate current desk.store.faults.failingDeletes .skipped (d.picked listed)).length +
        (withFate current desk.store.faults.failingDeletes .failed (d.picked listed)).length
      omega }

/-- **What a sweep does, exactly.** If it fails nothing has changed. If it reports, the alias leads
to one index and the rotated indices were listed. Where these are not too many, the three lists of
the report are empty, and store and ledger are as before. Where they are, the oldest of the listing
beyond the number to keep were picked, and each was deleted, was skipped because the alias leads to
it, or could not be deleted; the store is without those deleted, without their documents, bindings
and date ranges, and as it was otherwise. -/
theorem sweep_deletes_oldest (d : Deployment) (desk : Desk) :
    match Effect.on d.sweep desk with
    | (.error _, after) => after = desk
    | (.ok report, after) =>
      ∃ current listed, desk.store.aliases.targets d.naming.writeAlias = [current] ∧
        d.naming.rotatedIndices desk.store = .ok listed ∧
        report.indexCount = listed.size ∧ report.maxIndices = d.maxIndices ∧
        if listed.size ≤ d.maxIndices then
          report.deleted = [] ∧ report.skipped = [] ∧ report.failed = [] ∧
            after.store = desk.store ∧ after.ledger = desk.ledger
        else ∃ picked, d.Retains current listed desk report after picked := by
  rcases d.on_sweep desk with
    ⟨e, hfailed⟩ | ⟨current, listed, after, hcurrent, hlisted, hswept, hdone⟩
  · rw [hfailed]
  · rw [hswept]
    have htargets := targets_of_currentIndex hcurrent
    refine ⟨current, listed, htargets, hlisted, rfl, rfl, ?_⟩
    split
    · rename_i hfew
      rw [picked_eq_nil hfew, sweepRecord, if_pos hfew] at hdone
      rw [sweepReport, picked_eq_nil hfew, SweepReport.extended_nil]
      exact ⟨rfl, rfl, rfl, hdone.unchanged⟩
    · rename_i hmany
      exact ⟨_, retains_of_swept htargets hlisted (Nat.lt_of_not_le hmany) hdone⟩

/-- A deployment that keeps no index. -/
def keepingNone : Deployment := { Deployment.named "logs" "recent" with maxIndices := 0 }

/-- Three indices come to be, the first of which cannot be deleted and the last of which the alias
leads to. -/
def threeIndices : List Cluster.Event :=
  [.operation 0 .setup, .operation 0 .cycle, .operation 0 .cycle, .fault (.failDelete "logs_0")]

/-- The deployment with these indices. -/
def clusterOfThree : Cluster := (Cluster.start [keepingNone]).run threeIndices

/-- Of the three one is deleted, one is skipped and one stays. -/
theorem sweep_three {desk : Desk} (hstore : desk.store = clusterOfThree.store) :
    ∃ after, Effect.on keepingNone.sweep desk =
        (.ok { indexCount := 3, maxIndices := 0, deleted := ["logs_1"], skipped := ["logs_2"],
               failed := ["logs_0"] }, after) ∧
      after.store = desk.store.withoutIndices ["logs_1"] := by
  have hcurrent : keepingNone.currentIndex desk.store = .ok "logs_2" := by
    rw [hstore]
    decide +kernel
  obtain ⟨listed, hlisted⟩ : ∃ listed,
      keepingNone.naming.rotatedIndices desk.store = .ok listed := by
    rw [hstore]
    exact ⟨_, rfl⟩
  -- the names of the three are in the order of their age
  have hpicked : keepingNone.picked listed = ["logs_0", "logs_1", "logs_2"] := by
    rw [hstore] at hlisted
    cases hlisted
    rw [picked, oldestIndices, byAge_of_pairwise (by decide)]
    rfl
  have hsize : listed.size = 3 := by
    rw [hstore] at hlisted
    cases hlisted
    rfl
  obtain ⟨after, hswept, hdone⟩ := keepingNone.sweep_succeeds desk hcurrent hlisted
  have hfailing : desk.store.faults.failingDeletes = NameSet.add ∅ "logs_0" := by
    rw [hstore]
    rfl
  rw [sweepReport, hpicked, hsize, hfailing] at hswept
  rw [hpicked, hfailing] at hdone
  exact ⟨after, hswept, hdone.store⟩

/-- The desk at which the three are swept. -/
def deskOfThree : Desk where
  store := clusterOfThree.store

/-- The oldest of the three cannot be deleted, the next one is, and the newest is in use. -/
theorem sweep_deletes_oldest_three :
    ∃ report after current listed picked,
      Effect.on keepingNone.sweep deskOfThree = (.ok report, after) ∧
        report.deleted = ["logs_1"] ∧ report.skipped = ["logs_2"] ∧ report.failed = ["logs_0"] ∧
        keepingNone.Retains current listed deskOfThree report after picked := by
  have hstore : deskOfThree.store = clusterOfThree.store := rfl
  have hspec := sweep_deletes_oldest keepingNone deskOfThree
  obtain ⟨after, hswept, -⟩ := sweep_three hstore
  rw [hswept] at hspec
  obtain ⟨current, listed, -, -, hcount, -, hcases⟩ := hspec
  -- three are more than none
  have hmany : ¬ listed.size ≤ keepingNone.maxIndices := by
    rw [← hcount]
    decide
  rw [if_neg hmany] at hcases
  obtain ⟨picked, hretains⟩ := hcases
  exact ⟨_, after, current, listed, picked, hswept, rfl, rfl, rfl, hretains⟩

/-! ## A second sweep -/

/-- A sweep of what an earlier one left picks what that one picked and did not delete. -/
theorem picked_leftover (hlisted : d.naming.rotatedIndices desk.store = .ok listed)
    (current : String) (failing : NameSet) :
    d.picked (listed.filter fun name _ =>
        decide (name ∉ withFate current failing .deleted (d.picked listed))) =
      (d.picked listed).filter fun name =>
        decide (name ∉ withFate current failing .deleted (d.picked listed)) := by
  have hnamed : listed.Named := named_of_rotatedIndices hlisted
  have hsize := size_left hlisted current failing
  have hlength := length_leftover current failing (d.picked listed)
  rw [d.length_picked listed] at hlength
  generalize withFate current failing .deleted (d.picked listed) = deleted at hsize hlength ⊢
  -- as many are picked again as were not deleted
  have hcount : (listed.filter fun name _ => decide (name ∉ deleted)).size - d.maxIndices =
      ((d.picked listed).filter fun name => decide (name ∉ deleted)).length := by
    omega
  rw [picked, hcount, Table.values_filter hnamed fun name => decide (name ∉ deleted)]
  exact oldestIndices_filter (Table.nodup_names hnamed) (fun name => decide (name ∉ deleted)) _

/-- **A sweep done again deletes nothing.** If a sweep reports, a sweep of the store that it left
reports as well: it deletes nothing, it skips what was skipped and fails to delete what could not be
deleted, and store and date ranges stay as they are. -/
theorem sweep_idempotent {again : Desk} (h : Effect.on d.sweep desk = (.ok report, after))
    (hagain : again.store = after.store) :
    ∃ report' last, Effect.on d.sweep again = (.ok report', last) ∧ report'.deleted = [] ∧
      report'.skipped = report.skipped ∧ report'.failed = report.failed ∧
      last.store = again.store ∧ last.ledger.ranges = again.ledger.ranges := by
  rcases d.on_sweep desk with
    ⟨e, hfailed⟩ | ⟨current, listed, after', hcurrent, hlisted, hswept, hdone⟩
  · rw [hfailed] at h
    cases h
  · rw [hswept] at h
    cases h
    have hfaults : again.store.faults = desk.store.faults := by
      rw [hagain, hdone.store]
      exact (desk.store.withoutIndices_frame _).2.2.2
    have hleft := Naming.rotatedIndices_withoutIndices hlisted
      (withFate current desk.store.faults.failingDeletes .deleted (d.picked listed))
    rw [← hdone.store, ← hagain] at hleft
    have hcurrent' : d.currentIndex again.store = .ok current :=
      currentIndex_of_targets (Naming.reached_of_rotatedIndices hleft)
        (hagain ▸ targets_of_swept (targets_of_currentIndex hcurrent) hdone)
    obtain ⟨last, hswept', hdone'⟩ := d.sweep_succeeds again hcurrent' hleft
    rw [sweepReport, hfaults, picked_leftover hlisted] at hswept'
    rw [hfaults, picked_leftover hlisted, withFate_deleted_leftover] at hdone'
    refine ⟨_, last, hswept', withFate_deleted_leftover, withFate_leftover (by decide),
      withFate_leftover (by decide), hdone'.store, Table.ext_get? fun name => ?_⟩
    rw [hdone'.ranges, if_neg List.not_mem_nil]

/-- A second sweep of the three leaves it at that. -/
theorem sweep_idempotent_three :
    ∃ report after report' last, Effect.on keepingNone.sweep deskOfThree = (.ok report, after) ∧
      report.deleted = ["logs_1"] ∧ report.skipped = ["logs_2"] ∧ report.failed = ["logs_0"] ∧
      Effect.on keepingNone.sweep after = (.ok report', last) ∧ report'.deleted = [] ∧
      report'.skipped = ["logs_2"] ∧ report'.failed = ["logs_0"] ∧
      last.store = after.store ∧ last.ledger.ranges = after.ledger.ranges := by
  have hstore : deskOfThree.store = clusterOfThree.store := rfl
  obtain ⟨after, hswept, -⟩ := sweep_three hstore
  obtain ⟨report', last, hagain, hdeleted, hskipped, hfailed, hkept, hranges⟩ :=
    sweep_idempotent hswept rfl
  exact ⟨_, after, report', last, hswept, rfl, rfl, rfl, hagain, hdeleted, hskipped, hfailed,
    hkept, hranges⟩

end Deployment

end RollingIndex
