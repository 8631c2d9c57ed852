import Mathlib.Algebra.GroupWithZero.Nat
import RollingIndex.Proofs.Startup

/-!
# Totals

A deployment counts in three ways: over all its indices, over its rotated indices and in its recent
index, and each count is asked from the store by a pattern of its own. In a store that one
deployment has to itself every index is rotated or is the recent one (`Store.HeldBy`), and whether
the counts agree depends on the two names alone:

* **if the name of the recent index begins with the stem and a separator, the totals add up**;
* **if the pattern of all indices does not select the recent index, it is left out** of the listing,
  of the counts and of the total.

Both are said of every run in `Cluster.totals_add_up`; that the second happens with an accepted
configuration is `Cluster.totals_miss_recent`.
-/

namespace RollingIndex

/-! ## Sums over tables -/

namespace Table

variable {α : Type}

theorem total_eq_sum (t : Table α) (measure : α → Nat) :
    t.total measure = (t.values.map measure).sum := by
  rw [total, values, List.map_map, List.sum_eq_foldr, List.foldr_map]
  rfl

theorem sum_filter_add_lookup (measure : α → Nat) (key : String) :
    ∀ {entries : List (String × α)}, entries.Pairwise (fun a b => a.1 < b.1) →
      ((entries.filter fun entry => entry.1 != key).map fun entry => measure entry.2).sum +
          ((lookup key entries).map measure).getD 0 =
        (entries.map fun entry => measure entry.2).sum
  | [], _ => rfl
  | (name, value) :: rest, h => by
    have ih := sum_filter_add_lookup measure key h.of_cons
    by_cases hkey : key = name
    · subst hkey
      -- the key does not occur again, so the rest is kept as it is
      have hkept : rest.filter (fun entry => entry.1 != key) = rest := by
        refine List.filter_eq_self.mpr fun entry hentry => ?_
        have hlt : key < entry.1 := List.rel_of_pairwise_cons h hentry
        rw [bne_iff_ne]
        exact fun heq => String.lt_irrefl _ (heq ▸ hlt)
      simp [lookup, hkept, Nat.add_comm]
    · have hkept : ((name, value) :: rest).filter (fun entry => entry.1 != key) =
          (name, value) :: rest.filter (fun entry => entry.1 != key) :=
        List.filter_cons_of_pos (bne_iff_ne.mpr (Ne.symm hkey))
      rw [lookup, if_neg hkey, hkept, List.map_cons, List.map_cons, List.sum_cons, List.sum_cons,
        Nat.add_assoc, ih]

/-- The total of a table is the total of the other entries and what the entry itself counts. -/
theorem total_erase_add {t : Table α} {key : String} {value : α} (h : t.get? key = some value)
    (measure : α → Nat) : (t.erase key).total measure + measure value = t.total measure := by
  have hsum := sum_filter_add_lookup measure key t.ascending
  have hlookup : lookup key t.entries = some value := h
  rw [hlookup] at hsum
  rw [total_eq_sum, total_eq_sum, values, values, List.map_map, List.map_map]
  exact hsum

end Table

/-- To put indices in order changes no sum over them. -/
theorem sum_byAge (indices : List IndexStats) (measure : IndexStats → Nat) :
    ((byAge indices).map measure).sum = (indices.map measure).sum :=
  ((byAge_perm indices).map measure).sum_nat

/-! ## The patterns of the listings -/

namespace Naming.Legible

variable {naming : Naming} {name : String}

/-- The pattern of all indices selects what the glob of the deployment accepts. -/
theorem selects_allPattern_iff (h : naming.Legible) :
    (Pattern.ofText naming.allPattern).selects name = true ↔
      naming.allGlob.accepts name.toList = true := by
  have htext : naming.allPattern.toList = naming.stem.toList ++ ['_', '*'] := by simp [allPattern]
  have hcomma : ',' ∉ naming.allPattern.toList := by simp [htext, h.stem_comma]
  have htrim : Text.trim naming.allPattern.toList = naming.allPattern.toList := by
    rw [htext, h.trim_stem]
  rw [Pattern.ofText_eq_singleton hcomma htrim (by simp [htext]), htext, h.clause_stem,
    Pattern.selects_including]

/-- The name of the recent index selects itself as a pattern if it begins like the rotated names. -/
theorem selects_recentIndex (h : naming.Legible) {rest : List Char}
    (hbegins : naming.recentIndex.toList = naming.stem.toList ++ '_' :: rest) :
    (Pattern.ofText naming.recentIndex).selects naming.recentIndex = true := by
  have hfirst := hbegins ▸ h.head_stem rest
  have htrim : Text.trim naming.recentIndex.toList = naming.recentIndex.toList :=
    Text.Trimmed.trim_eq ⟨fun c hc => (hfirst c hc).2, h.recent_last⟩
  have hcomma : ',' ∉ naming.recentIndex.toList := fun hc => (h.recent_plain _ hc).2.2 rfl
  have hself : Glob.accepts (Glob.ofText naming.recentIndex.toList) naming.recentIndex.toList =
      true := Glob.accepts_iff.mpr (Glob.matches_ofText_self _)
  rw [Pattern.ofText_eq_singleton hcomma htrim (by simp [hbegins])]
  by_cases hall : naming.recentIndex.toList = ['_', 'a', 'l', 'l']
  · -- as a pattern this name selects everything
    rw [Pattern.selects, hall]
    rfl
  · rw [Clause.ofText_eq_including (fun hsign => (hfirst '-' hsign).1 rfl) hall,
      Pattern.selects_including]
    exact hself

end Naming.Legible

/-! ## The store of one deployment -/

namespace Store

variable {store after : Store} {d : Deployment} {operation : Operation}
  {result : Except Failure Answer}

/-- Every index of the store is a rotated index of the deployment or its recent index. -/
def HeldBy (store : Store) (naming : Naming) : Prop :=
  ∀ name, store.indices.contains name = true →
    naming.isRotated name = true ∨ name = naming.recentIndex

theorem heldBy_empty (naming : Naming) : HeldBy {} naming := fun _ h => by cases h

namespace HeldBy

variable {naming : Naming}

/-- One more index may be one of the deployment. -/
theorem withIndex (h : store.HeldBy naming) {name : String}
    (hname : naming.isRotated name = true ∨ name = naming.recentIndex) (settings : IndexSettings)
    (mapping : Option Json) : (store.withIndex name settings mapping).HeldBy naming := by
  intro other hother
  by_cases heq : other = name
  · exact heq ▸ hname
  · rw [Table.contains, get?_withIndex_of_ne heq] at hother
    exact h other hother

theorem of_sameNames (h : store.HeldBy naming) (hnames : SameNames after.indices store.indices) :
    after.HeldBy naming := fun name hname => h name (hnames name ▸ hname)

/-- The next name is one of the deployment. -/
theorem isRotated_nextName (naming : Naming) (names : List String) :
    naming.isRotated (naming.nextName names) = true ∨
      naming.nextName names = naming.recentIndex := by
  by_cases hrecent : naming.nextName names = naming.recentIndex
  · exact .inr hrecent
  · refine .inl ?_
    rw [Naming.isRotated, naming.indexNumber?_nextName, bne_iff_ne.mpr hrecent]
    rfl

/-- **Every operation of the deployment creates indices of its own only.** -/
theorem transition (h : store.HeldBy d.naming)
    (htransition : d.Transition store operation result after) : after.HeldBy d.naming := by
  cases htransition with
  | kept => exact h
  | rotated _ result _ _ hrotation =>
    cases hrotation with
    | refused => exact h
    | stranded names => exact h.withIndex (isRotated_nextName _ names) _ _
    | moved old names => exact h.withIndex (isRotated_nextName _ names) _ (some d.mapping)
  | created _ _ mapping => exact h.withIndex (.inr rfl) _ _
  | wrote records => exact h.of_sameNames (d.afterBatch_frame records store).2.2
  | purged upTo names =>
    exact h.of_sameNames
      (sameNames_of_get?_eq_map (get?_afterPurge store names createdAtField 0 upTo))
  | swept report =>
    intro name hname
    exact h name (contains_withoutIndices_iff.mp hname).2

end HeldBy

/-- No operation of the deployment deletes its recent index. -/
theorem contains_recentIndex_transition
    (hexists : store.indices.contains d.naming.recentIndex = true)
    (htransition : d.Transition store operation result after) :
    after.indices.contains d.naming.recentIndex = true := by
  obtain ⟨index, hindex⟩ := Table.contains_eq_true_iff.mp hexists
  obtain ⟨documents, hafter, -⟩ :=
    htransition.get?_of_not_rotated hindex d.naming.isRotated_recentIndex
  exact Table.contains_eq_true_iff.mpr ⟨_, hafter⟩

end Store

namespace Cluster

variable {cluster : Cluster} {d : Deployment}

/-- What happens to a cluster of one deployment is a fault, nothing, or an operation of that
deployment. -/
theorem transition_of_single (hd : cluster.deployments = [d]) (event : Event) :
    (∃ fault, event = .fault fault ∧ (cluster.step event).store = cluster.store.switch fault) ∨
      (cluster.step event).store = cluster.store ∨
      ∃ member operation result, event = .operation member operation ∧
        cluster.deployments[member]? = some d ∧
        d.Transition cluster.store operation result (cluster.step event).store := by
  have hstep := cluster.step_store event
  generalize (cluster.step event).store = after at hstep
  cases hstep with
  | switched fault => exact .inl ⟨fault, rfl, rfl⟩
  | absent => exact .inr (.inl rfl)
  | performed member operation other result _ hother _ htransition =>
    have hmem := List.mem_of_getElem? hother
    rw [hd, List.mem_singleton] at hmem
    subst hmem
    exact .inr (.inr ⟨member, operation, result, rfl, hother, htransition⟩)

theorem heldBy_step (hd : cluster.deployments = [d]) (h : cluster.store.HeldBy d.naming)
    (event : Event) : (cluster.step event).store.HeldBy d.naming := by
  rcases transition_of_single hd event with
    ⟨fault, -, hstore⟩ | hstore | ⟨member, operation, result, -, -, htransition⟩
  · rw [hstore]
    exact h
  · rw [hstore]
    exact h
  · exact h.transition htransition

/-- **A store that one deployment has to itself holds its indices only.** -/
theorem heldBy_run (hd : cluster.deployments = [d]) (h : cluster.store.HeldBy d.naming)
    (events : List Event) : (cluster.run events).store.HeldBy d.naming := by
  induction events generalizing cluster with
  | nil => exact h
  | cons event events ih =>
    exact ih ((cluster.deployments_step event).trans hd) (heldBy_step hd h event)

theorem contains_recentIndex_step (hd : cluster.deployments = [d])
    (hexists : cluster.store.indices.contains d.naming.recentIndex = true) (event : Event) :
    (cluster.step event).store.indices.contains d.naming.recentIndex = true := by
  rcases transition_of_single hd event with
    ⟨fault, -, hstore⟩ | hstore | ⟨member, operation, result, -, -, htransition⟩
  · rw [hstore]
    exact hexists
  · rw [hstore]
    exact hexists
  · exact Store.contains_recentIndex_transition hexists htransition

/-- **The recent index stays.** -/
theorem contains_recentIndex_run (hd : cluster.deployments = [d])
    (hexists : cluster.store.indices.contains d.naming.recentIndex = true) (events : List Event) :
    (cluster.run events).store.indices.contains d.naming.recentIndex = true := by
  induction events generalizing cluster with
  | nil => exact hexists
  | cons event events ih =>
    exact ih ((cluster.deployments_step event).trans hd)
      (contains_recentIndex_step hd hexists event)

end Cluster

/-! ## Listings, counts and reports -/

namespace Store.HeldBy

variable {store : Store} {naming : Naming} {index : Index}

/-- The rotated indices are all indices but the recent one. -/
theorem rotatedOf_eq (h : store.HeldBy naming) :
    naming.rotatedOf store = (store.indices.map Index.stats).erase naming.recentIndex := by
  apply Table.ext_get?
  intro name
  rw [Naming.get?_rotatedOf, Table.get?_erase, Table.get?_map]
  by_cases hrecent : name = naming.recentIndex
  · rw [hrecent, naming.isRotated_recentIndex, if_pos rfl]
    rfl
  · rw [if_neg hrecent]
    cases hindex : store.indices.get? name with
    | none => simp
    | some index =>
      rcases h name (Table.contains_eq_true_iff.mpr ⟨index, hindex⟩) with hrotated | hname
      · rw [if_pos hrotated]
      · exact absurd hname hrecent

/-- The listing of all indices holds what is rotated, and the recent index if the pattern selects
it. -/
theorem listing_allPattern (h : store.HeldBy naming) (hlegible : naming.Legible) :
    store.listing naming.allPattern =
      if (Pattern.ofText naming.allPattern).selects naming.recentIndex then
        store.indices.map Index.stats
      else naming.rotatedOf store := by
  apply Table.ext_get?
  intro name
  rw [get?_listing]
  cases hindex : store.indices.get? name with
  | none =>
    cases (Pattern.ofText naming.allPattern).selects naming.recentIndex <;>
      simp [Naming.get?_rotatedOf, hindex]
  | some index =>
    by_cases hrecent : name = naming.recentIndex
    · subst hrecent
      cases (Pattern.ofText naming.allPattern).selects naming.recentIndex with
      | true => simp [hindex]
      | false => simp [Naming.get?_rotatedOf, naming.isRotated_recentIndex]
    · have hrotated : naming.isRotated name = true :=
        (h name (Table.contains_eq_true_iff.mpr ⟨index, hindex⟩)).resolve_right hrecent
      have hselects : (Pattern.ofText naming.allPattern).selects name = true := by
        obtain ⟨rest, -, hname⟩ := Naming.Owns.of_isRotated hrotated
        exact hlegible.selects_allPattern_iff.mpr (Naming.accepts_allGlob hname)
      rw [if_pos hselects]
      split <;> simp [Naming.get?_rotatedOf, hindex, hrotated]

/-- The number of documents of the rotated indices, as a report lists them. -/
theorem sum_rotated (h : store.HeldBy naming)
    (hindex : store.indices.get? naming.recentIndex = some index) :
    ((byAge (naming.rotatedOf store).values).map (·.primaryDocs)).sum + index.visible.size =
      (store.indices.map Index.stats).total (·.primaryDocs) := by
  have hstats : (store.indices.map Index.stats).get? naming.recentIndex =
      some (Index.stats naming.recentIndex index) := by
    rw [Table.get?_map, hindex]
    rfl
  rw [sum_byAge, ← Table.total_eq_sum, h.rotatedOf_eq]
  exact Table.total_erase_add hstats (·.primaryDocs)

/-- A deployment whose recent index is named like the rotated ones sees all indices of its store,
and its totals add up. -/
theorem totals (h : store.HeldBy naming) (hlegible : naming.Legible)
    (hreached : store.faults.unavailable = false) {target : Target}
    (htarget : store.currentTarget naming.writeAlias = .ok target)
    (hindex : store.indices.get? naming.recentIndex = some index) {rest : List Char}
    (hbegins : naming.recentIndex.toList = naming.stem.toList ++ '_' :: rest) :
    naming.listIndices store = .ok (store.indices.map Index.stats) ∧
      naming.documentCount naming.recentIndex store = .ok index.visible.size ∧
      ∃ report, Report.collect naming store = .ok report ∧
        report.recentDocs = some index.visible.size ∧
        report.totalMessages =
          (report.indices.map (·.primaryDocs)).sum + index.visible.size := by
  have hlisting : store.listing naming.allPattern = store.indices.map Index.stats := by
    rw [h.listing_allPattern hlegible]
    exact if_pos (hlegible.selects_allPattern_iff.mpr (Naming.accepts_allGlob hbegins))
  have hlisted : naming.listIndices store = .ok (store.indices.map Index.stats) := by
    rw [Naming.listIndices, stats_eq_listing hreached, hlisting]
  refine ⟨hlisted, ?_, _, Report.collect_eq hreached htarget
    (hlegible.hidesNone.rotatedIndices_eq hreached), ?_, ?_⟩
  · simp only [Naming.documentCount, hlisted, bind, Except.bind, Table.get?_map, hindex]
    rfl
  · rw [get?_listing, if_pos (hlegible.selects_recentIndex hbegins), hindex]
    rfl
  · rw [hlisting]
    exact (h.sum_rotated hindex).symm

/-- A deployment whose pattern does not select its recent index does not see it, and its total
counts the rotated indices only. -/
theorem totals_of_not_selects (h : store.HeldBy naming) (hlegible : naming.Legible)
    (hreached : store.faults.unavailable = false) {target : Target}
    (htarget : store.currentTarget naming.writeAlias = .ok target)
    (hselects : (Pattern.ofText naming.allPattern).selects naming.recentIndex = false) :
    naming.listIndices store = .ok (naming.rotatedOf store) ∧
      naming.documentCount naming.recentIndex store =
        .error (.indexNotFound naming.recentIndex) ∧
      ∃ report, Report.collect naming store = .ok report ∧
        report.totalMessages = (report.indices.map (·.primaryDocs)).sum := by
  have hlisting : store.listing naming.allPattern = naming.rotatedOf store := by
    rw [h.listing_allPattern hlegible]
    exact if_neg (Bool.eq_false_iff.mp hselects)
  have hlisted : naming.listIndices store = .ok (naming.rotatedOf store) := by
    rw [Naming.listIndices, stats_eq_listing hreached, hlisting]
  refine ⟨hlisted, ?_, _, Report.collect_eq hreached htarget
    (hlegible.hidesNone.rotatedIndices_eq hreached), ?_⟩
  · have hmissing : (naming.rotatedOf store).get? naming.recentIndex = none := by
      rw [h.rotatedOf_eq, Table.get?_erase, if_pos rfl]
    simp only [Naming.documentCount, hlisted, bind, Except.bind, hmissing]
    rfl
  · rw [hlisting, sum_byAge, Table.total_eq_sum]

end Store.HeldBy

/-! ## Runs -/

namespace Cluster

theorem contains_recentIndex_of_ensured {cluster : Cluster} {member : Nat} {d : Deployment}
    {answer : Answer} (hd : cluster.deployments[member]? = some d)
    (h : cluster.answer? member .ensureRecentIndex = some (.ok answer)) :
    (cluster.step (.operation member .ensureRecentIndex)).store.indices.contains
      d.naming.recentIndex = true := by
  obtain ⟨m, hm, rfl⟩ := exists_member hd
  rw [answer?_of_member hm, Deployment.perform, Effect.on_bind_pure, Option.some_inj] at h
  rw [store_step_of_member hm, Deployment.perform, Effect.on_bind_pure]
  rcases hensure : Effect.on m.deployment.ensureRecentIndex (cluster.desk m) with
    ⟨e | created, after⟩
  · rw [hensure] at h
    cases h
  · exact Deployment.contains_of_ensureRecentIndex hensure

/-- **Listings and totals in every run of a deployment that has its store to itself.** Once the
recent index was ensured it stays, every other index of the store is a rotated index of the
deployment, and as long as the store can be reached:

* if the name of the recent index begins with the stem and a separator, the listing holds all
  indices of the store, the documents of the recent index are counted, and the total of a report is
  the sum over the rotated indices it lists and the documents of the recent index;
* if the pattern of all indices does not select the recent index, the listing holds the rotated
  indices only, the recent index is reported as missing when its documents are to be counted, and
  the total of a report is the sum over the rotated indices alone.

The settings have to be legible. What else happens before and after, and which faults occur, does
not matter. -/
theorem totals_add_up (d : Deployment) (hlegible : d.naming.Legible) (before rest : List Event)
    {answer : Answer}
    (hensured : ((start [d]).run before).answer? 0 .ensureRecentIndex = some (.ok answer))
    {store : Store}
    (hstore : ((start [d]).run (before ++ .operation 0 .ensureRecentIndex :: rest)).store = store)
    (hreached : store.faults.unavailable = false) :
    (∀ name, store.indices.contains name = true →
        d.naming.isRotated name = true ∨ name = d.naming.recentIndex) ∧
      ∃ index, store.indices.get? d.naming.recentIndex = some index ∧
        ((∃ text, d.naming.recentIndex.toList = d.naming.stem.toList ++ '_' :: text) →
          d.naming.listIndices store = .ok (store.indices.map Index.stats) ∧
            d.naming.documentCount d.naming.recentIndex store = .ok index.visible.size ∧
            ∃ report, Report.collect d.naming store = .ok report ∧
              report.recentDocs = some index.visible.size ∧
              report.totalMessages =
                (report.indices.map (·.primaryDocs)).sum + index.visible.size) ∧
        ((Pattern.ofText d.naming.allPattern).selects d.naming.recentIndex = false →
          d.naming.listIndices store = .ok (d.naming.rotatedOf store) ∧
            d.naming.documentCount d.naming.recentIndex store =
              .error (.indexNotFound d.naming.recentIndex) ∧
            ∃ report, Report.collect d.naming store = .ok report ∧
              report.totalMessages = (report.indices.map (·.primaryDocs)).sum) := by
  have hheld : store.HeldBy d.naming :=
    hstore ▸ heldBy_run (deployments_start [d]) (Store.heldBy_empty d.naming) _
  have hexists : store.indices.contains d.naming.recentIndex = true := by
    rw [← hstore, run_append]
    have hdeployments : ((start [d]).run before).deployments = [d] := by
      rw [deployments_run, deployments_start]
    exact contains_recentIndex_run ((deployments_step ..).trans hdeployments)
      (contains_recentIndex_of_ensured (by rw [hdeployments]; rfl) hensured) rest
  obtain ⟨index, hindex⟩ := Table.contains_eq_true_iff.mp hexists
  obtain ⟨target, htarget⟩ := Store.exists_currentTarget hreached
    (hstore ▸ (wellAliased_run Store.wellAliased_empty _).length_targets_le d.naming.writeAlias)
  exact ⟨hheld, index, hindex,
    fun ⟨_, hbegins⟩ => hheld.totals hlegible hreached htarget hindex hbegins,
    hheld.totals_of_not_selects hlegible hreached htarget⟩

/-- A deployment starts and writes one record. -/
def firstRecord : List Event :=
  [.operation 0 .setup, .operation 0 .ensureRecentIndex,
    .operation 0 (.writeBatch [{ id := "1", body := .null }])]

/-- The record counts once in the rotated index and once in the recent index. -/
theorem totals_add_up_first_record :
    Naming.Legible ⟨"logs", "logs_recent"⟩ ∧
      ((start [.named "logs" "logs_recent"]).run [.operation 0 .setup]).answer? 0
        .ensureRecentIndex = some (.ok (.flag true)) ∧
      ((start [.named "logs" "logs_recent"]).run firstRecord).store.faults.unavailable = false ∧
      Naming.documentCount ⟨"logs", "logs_recent"⟩ "logs_recent"
        ((start [.named "logs" "logs_recent"]).run firstRecord).store = .ok 1 ∧
      ∃ report,
        Report.collect ⟨"logs", "logs_recent"⟩
          ((start [.named "logs" "logs_recent"]).run firstRecord).store = .ok report ∧
        report.recentDocs = some 1 ∧
        report.totalMessages = (report.indices.map (·.primaryDocs)).sum + 1 := by
  have hlegible : Naming.Legible ⟨"logs", "logs_recent"⟩ := by decide
  have hensured : ((start [.named "logs" "logs_recent"]).run [.operation 0 .setup]).answer? 0
      .ensureRecentIndex = some (.ok (.flag true)) := rfl
  obtain ⟨-, index, hindex, htotals, -⟩ :=
    totals_add_up (.named "logs" "logs_recent") hlegible [.operation 0 .setup]
      [.operation 0 (.writeBatch [{ id := "1", body := .null }])] hensured rfl rfl
  obtain ⟨-, hcount, report, hreport, hrecent, htotal⟩ := htotals ⟨"recent".toList, rfl⟩
  have hdocs : index.visible.size = 1 := by
    have hsize := congrArg (Option.map fun found : Index => found.visible.size) hindex
    exact Option.some.inj (hsize.symm.trans rfl)
  rw [hdocs] at hcount hrecent htotal
  exact ⟨hlegible, hensured, rfl, hcount, report, hreport, hrecent, htotal⟩

/-- An accepted deployment whose recent index is called `recent` does not see it: after one record
was written, the documents of the recent index cannot be counted, and the total is less than the sum
over the rotated indices and the documents of the recent index, as the same report says them. -/
theorem totals_miss_recent :
    (Deployment.named "logs" "recent").Accepted ∧
      (start [.named "logs" "recent"]).answer? 0 .setup = some (.ok (.index "logs_0")) ∧
      ((start [.named "logs" "recent"]).run [.operation 0 .setup]).answer? 0 .ensureRecentIndex =
        some (.ok (.flag true)) ∧
      ((start [.named "logs" "recent"]).run firstRecord).store.indices.keys =
        ["logs_0", "recent"] ∧
      Naming.documentCount ⟨"logs", "recent"⟩ "recent"
        ((start [.named "logs" "recent"]).run firstRecord).store =
          .error (.indexNotFound "recent") ∧
      ∃ report,
        Report.collect ⟨"logs", "recent"⟩
          ((start [.named "logs" "recent"]).run firstRecord).store = .ok report ∧
        report.recentDocs = some 1 ∧ (report.indices.map (·.primaryDocs)).sum = 1 ∧
        report.totalMessages = 1 := by
  refine ⟨.named rfl, rfl, rfl, rfl, rfl, _,
    @Report.collect_eq _ _ (.bound "logs_0") rfl rfl _ rfl, rfl, ?_, rfl⟩
  rw [sum_byAge]
  rfl

end Cluster

end RollingIndex
