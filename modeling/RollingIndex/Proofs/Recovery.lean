import RollingIndex.Proofs.Configurations
import RollingIndex.Proofs.Listings
import RollingIndex.Proofs.SharedStores
import RollingIndex.Proofs.AliasSafety

/-!
# Recovery of rotations

A rotation that fails may leave an index behind, and nobody clears it away but a later sweep. All
the same **a rotation succeeds as soon as the store confirms everything again**, whatever happened
before (`Cluster.cycle_recovers`), as long as there are numbers left. Four things could keep it from
succeeding, and the first three are never there:

* the alias is bound to several indices, which no run brings about (`Store.WellAliased`);
* an index has the next name: the indices that have a number are all listed, whichever deployment
  created them and whether they were finished or not, and the next number is greater;
* an alias has the next name: what is in the table of aliases is bound to something, so it is the
  alias of a prefix, and that has no number (`Store.WellAliased.free_nextName`);
* an index has the greatest number of 64 bits, so that the count begins again at names that may be
  taken; this is ruled out by assumption.
-/

namespace RollingIndex

/-- The store can be reached and confirms every change of indices and aliases. Documents, deletions
and bulk requests may still be refused. -/
structure Faults.Confirming (faults : Faults) : Prop where
  /-- the store can be reached -/
  reached : faults.unavailable = false
  /-- creations are confirmed -/
  creates : faults.acknowledgesCreates = true
  /-- mappings are confirmed -/
  mappings : faults.acknowledgesMappings = true
  /-- changes of aliases are confirmed -/
  aliases : faults.acknowledgesAliases = true

namespace Deployment

/-! ## A rotation that nothing stands in the way of -/

/-- A store that confirms everything creates an index with its mapping under any free name. -/
theorem createWithMapping_succeeds (d : Deployment) (desk : Desk)
    (hconfirming : desk.store.faults.Confirming) {name : String} (hfree : desk.store.Free name)
    (settings : IndexSettings) :
    ∃ after, Effect.on (d.createWithMapping name settings) desk = (.ok (), after) ∧
      after.store = desk.store.withIndex name settings (some d.mapping) := by
  have hcreate : Effect.on (Store.create name settings) desk.store =
      (.ok true, desk.store.withIndex name settings) := by
    rw [Store.on_create, Store.contains_eq_false_iff.mpr hfree.1,
      Store.contains_eq_false_iff.mpr hfree.2, hconfirming.reached, hconfirming.creates]
    rfl
  have hmap : Effect.on (Store.putMapping name d.mapping) (desk.store.withIndex name settings) =
      (.ok true, desk.store.withIndex name settings (some d.mapping)) := by
    have hexists : (desk.store.withIndex name settings).indices.contains name = true :=
      desk.store.contains_withIndex_self name settings none
    have hreached : (desk.store.withIndex name settings).faults.unavailable = false :=
      hconfirming.reached
    have hmappings : (desk.store.withIndex name settings).faults.acknowledgesMappings = true :=
      hconfirming.mappings
    rw [Store.on_putMapping, hexists, hreached, hmappings, Store.modify_withIndex]
    rfl
  simp only [createWithMapping, Effect.on_bind, Action.on_onStore, hcreate, hmap, if_true]
  exact ⟨_, rfl, rfl⟩

/-- A store that confirms everything moves an alias to any index that exists. -/
theorem cutover_succeeds (desk : Desk) (hconfirming : desk.store.faults.Confirming)
    (aliasName : String) {new : String} (hexists : desk.store.indices.contains new = true)
    (old : Option String) :
    ∃ after, Effect.on (cutover aliasName new old) desk = (.ok (), after) ∧
      after.store = { desk.store with
        aliases := desk.store.aliases.apply (cutoverActions aliasName new old) } := by
  have hmove : Effect.on (Store.updateAliases (cutoverActions aliasName new old)) desk.store =
      (.ok true, { desk.store with
        aliases := desk.store.aliases.apply (cutoverActions aliasName new old) }) := by
    rw [Store.on_updateAliases, find?_cutoverActions hexists, hconfirming.reached,
      hconfirming.aliases]
    rfl
  simp only [cutover, Effect.on_bind, Action.on_onStore, hmove, if_true]
  exact ⟨_, rfl, rfl⟩

/-- The store after a rotation: there is one more index, and the alias leads to it. -/
def afterRotation (d : Deployment) (store : Store) (old : Target) (new : String) : Store :=
  { store.withIndex new d.rotatedSettings (some d.mapping) with
    aliases := store.aliases.apply (cutoverActions d.naming.writeAlias new old.index?) }

/-- A rotation succeeds if the store confirms everything, the alias leads to one index at most and
the next name is free. -/
theorem rotate_succeeds (d : Deployment) (desk : Desk) (hconfirming : desk.store.faults.Confirming)
    {old : Target} {names : List String}
    (hold : desk.store.currentTarget d.naming.writeAlias = .ok old)
    (hnames : d.naming.rotatedNames desk.store = .ok names)
    (hfree : desk.store.Free (d.naming.nextName names)) :
    ∃ after, Effect.on d.rotate desk = (.ok (d.naming.nextName names), after) ∧
      after.store = d.afterRotation desk.store old (d.naming.nextName names) := by
  simp only [rotate, Effect.on_bind, Action.on_ask, hold, hnames, Action.on_log, createIndex]
  generalize hlogged : { desk with log := _ } = logged
  have hstore : logged.store = desk.store := by rw [← hlogged]
  -- first the index is created
  obtain ⟨created, hcreate, hcreated⟩ := d.createWithMapping_succeeds logged (hstore ▸ hconfirming)
    (hstore ▸ hfree) { shards := d.shards, replicas := d.replicas }
  rw [hcreate]
  dsimp only
  -- then the alias is moved, for the store is as willing as before
  have hexists : created.store.indices.contains (d.naming.nextName names) = true := by
    rw [hcreated]
    exact logged.store.contains_withIndex_self _ _ _
  have hwilling : created.store.faults.Confirming := by
    rw [hcreated, hstore]
    exact hconfirming
  obtain ⟨moved, hmove, hmoved⟩ :=
    cutover_succeeds created hwilling d.naming.writeAlias hexists old.index?
  rw [hmove]
  dsimp only
  -- and last the rotation is recorded, which does not touch the store
  obtain ⟨recorded, hrecord, hrecorded⟩ := Action.on_record d
    { source := rotationSource, message := rotationMessage old.index? (d.naming.nextName names) }
    moved
  rw [hrecord]
  refine ⟨recorded, rfl, ?_⟩
  rw [hrecorded, hmoved, hcreated, hstore]
  rfl

theorem cycle_succeeds (d : Deployment) (desk : Desk) (hconfirming : desk.store.faults.Confirming)
    {old : Target} {names : List String}
    (hold : desk.store.currentTarget d.naming.writeAlias = .ok old)
    (hnames : d.naming.rotatedNames desk.store = .ok names)
    (hfree : desk.store.Free (d.naming.nextName names)) :
    ∃ after, Effect.on d.cycle desk = (.ok (d.naming.nextName names), after) ∧
      after.store = d.afterRotation desk.store old (d.naming.nextName names) := by
  obtain ⟨after, hrotate, hafter⟩ := d.rotate_succeeds desk hconfirming hold hnames hfree
  refine ⟨after, ?_, hafter⟩
  rw [cycle, Effect.on_tryCatch, hrotate]

end Deployment

/-! ## Nothing stands in the way -/

namespace Store

variable {store : Store} {aliasName : String}

/-- An alias that is bound to one index at most leads somewhere or nowhere. -/
theorem exists_currentTarget (hreached : store.faults.unavailable = false)
    (h : (store.aliases.targets aliasName).length ≤ 1) :
    ∃ target, store.currentTarget aliasName = .ok target := by
  simp only [currentTarget, aliasTargets, available, hreached, Bool.false_eq_true, if_false, bind,
    Except.bind, pure, Except.pure]
  rcases htargets : store.aliases.targets aliasName with _ | ⟨index, _ | ⟨other, rest⟩⟩
  · exact ⟨.unbound, rfl⟩
  · exact ⟨.bound index, rfl⟩
  · rw [htargets] at h
    simp at h

/-- A name that is in the table of aliases has no number. -/
theorem WellAliased.indexNumber?_eq_none (hsafe : store.WellAliased)
    (hconsistent : store.Consistent) {bound : NameSet}
    (hbound : store.aliases.get? aliasName = some bound) (naming : Naming) :
    naming.indexNumber? aliasName = none := by
  obtain ⟨index, hindex⟩ := List.exists_mem_of_ne_nil _ (hconsistent.bound hbound)
  obtain ⟨other, n, rfl, -, -⟩ :=
    hsafe.numbered (AliasTable.mem_targets.mpr ⟨bound, hbound, hindex⟩)
  exact Naming.indexNumber?_writeAlias other naming

/-- **The next name is free** where there is room for it: no index has it and no alias. -/
theorem WellAliased.free_nextName (hsafe : store.WellAliased)
    (hconsistent : store.Consistent) {naming : Naming} {names : List String}
    (hliteral : naming.Literal) (hrecent : naming.indexNumber? naming.recentIndex = none)
    (hnames : naming.rotatedNames store = .ok names) (hroom : naming.HasRoom names) :
    store.Free (naming.nextName names) := by
  refine ⟨contains_eq_false_iff.mp (Naming.contains_nextName hliteral hrecent hnames hroom), ?_⟩
  cases hbound : store.aliases.get? (naming.nextName names) with
  | none => rfl
  | some bound =>
    have hnumber : naming.indexNumber? (naming.nextName names) = none :=
      hsafe.indexNumber?_eq_none hconsistent hbound naming
    rw [naming.indexNumber?_nextName] at hnumber
    cases hnumber

end Store

namespace Cluster

/-- A rotation succeeds in every cluster whose aliases are safe and whose store is consistent, if
the store confirms everything and there is room for the next number. -/
theorem cycle_step {cluster : Cluster} {member : Nat} {d : Deployment}
    (hd : cluster.deployments[member]? = some d)
    (hsafe : cluster.store.WellAliased) (hconsistent : cluster.store.Consistent)
    (haccepted : d.Accepted) (hliteral : d.naming.Literal)
    (hconfirming : cluster.store.faults.Confirming)
    (hroom : cluster.hasRoom (.operation member .cycle) = true) :
    ∃ old names, cluster.store.currentTarget d.naming.writeAlias = .ok old ∧
      d.naming.rotatedNames cluster.store = .ok names ∧ d.naming.HasRoom names ∧
      cluster.store.Free (d.naming.nextName names) ∧
      cluster.answer? member .cycle = some (.ok (.index (d.naming.nextName names))) ∧
      (cluster.step (.operation member .cycle)).store =
        d.afterRotation cluster.store old (d.naming.nextName names) := by
  obtain ⟨old, hold⟩ := Store.exists_currentTarget hconfirming.reached
    (hsafe.length_targets_le d.naming.writeAlias)
  obtain ⟨names, hnames⟩ := d.naming.exists_rotatedNames hconfirming.reached
  have hnamesRoom : d.naming.HasRoom names := hasRoom_rotatedNames hroom hd rfl hnames
  have hfree := hsafe.free_nextName hconsistent hliteral haccepted.indexNumber?_recentIndex hnames
    hnamesRoom
  obtain ⟨m, hm, rfl⟩ := exists_member hd
  obtain ⟨after, hcycle, hafter⟩ :=
    m.deployment.cycle_succeeds (cluster.desk m) hconfirming hold hnames hfree
  have hperform : Effect.on (m.deployment.perform .cycle) (cluster.desk m) =
      (.ok (.index (m.deployment.naming.nextName names)), after) := by
    rw [Deployment.perform, Effect.on_bind_pure, hcycle]
    rfl
  refine ⟨old, names, hold, hnames, hnamesRoom, hfree, ?_, ?_⟩
  · rw [answer?_of_member hm, hperform]
  · rw [store_step_of_member hm, hperform]
    exact hafter

/-- **A rotation recovers from whatever happened before.** After any run of any deployments with a
store that was empty, under any faults, a rotation of an accepted deployment whose settings are read
by patterns as they stand succeeds once the store confirms everything and there is room for the next
number. Its alias is bound to one index at most before, the name it picks is the name of no index
and of no alias, and its number is greater than the number of any index that is there. Afterwards
the alias leads to the new index, which has its mapping and no documents. -/
theorem cycle_recovers (ds : List Deployment) (events : List Event) (member : Nat) (d : Deployment)
    (hd : ds[member]? = some d) (haccepted : d.Accepted) (hliteral : d.naming.Literal)
    (hconfirming : ((start ds).run events).store.faults.Confirming)
    (hroom : ((start ds).run events).hasRoom (.operation member .cycle) = true) :
    ∃ n < powerOfTwo 64,
      ((start ds).run events).answer? member .cycle =
        some (.ok (.index (d.naming.indexName n))) ∧
      (((start ds).run events).store.aliases.targets d.naming.writeAlias).length ≤ 1 ∧
      ((start ds).run events).store.Free (d.naming.indexName n) ∧
      (∀ name m, ((start ds).run events).store.indices.contains name = true →
        d.naming.indexNumber? name = some m → m < n) ∧
      (((start ds).run events).step (.operation member .cycle)).store.aliases.targets
        d.naming.writeAlias = [d.naming.indexName n] ∧
      ∃ creationOrder, (((start ds).run events).step (.operation member .cycle)).store.indices.get?
        (d.naming.indexName n) =
          some { settings := d.rotatedSettings, mapping := some d.mapping, creationOrder } := by
  have hsafe : ((start ds).run events).store.WellAliased :=
    wellAliased_run Store.wellAliased_empty events
  have hconsistent : ((start ds).run events).store.Consistent :=
    consistent_store_run Store.consistent_empty events
  have hmember : ((start ds).run events).deployments[member]? = some d := by
    rw [deployments_run, deployments_start, hd]
  generalize (start ds).run events = cluster at *
  obtain ⟨old, names, hold, hnames, hnamesRoom, hfree, hanswer, hstore⟩ :=
    cycle_step hmember hsafe hconsistent haccepted hliteral hconfirming hroom
  refine ⟨d.naming.nextNumber names, d.naming.nextNumber_lt names, hanswer,
    hsafe.length_targets_le _, hfree, fun name m => ?_, ?_, ?_⟩
  · exact Naming.lt_nextNumber_of_contains hliteral haccepted.indexNumber?_recentIndex hnames
      hnamesRoom
  · rw [hstore]
    exact (Deployment.targets_cutover (Store.targets_of_currentTarget hold) _ _).trans (if_pos rfl)
  · rw [hstore]
    exact ⟨cluster.store.nextOrder, cluster.store.get?_withIndex_self _ _ _⟩

/-- Rotations of the first of two deployments that fail at each of their steps, when the recent
index of the second has taken a number under the prefix of the first. -/
def mishaps : List Event :=
  [.operation 0 .setup, .operation 1 .ensureRecentIndex, .fault (.acknowledgeCreates false),
    .operation 0 .cycle, .fault (.acknowledgeCreates true), .fault (.acknowledgeMappings false),
    .operation 0 .cycle, .fault (.acknowledgeMappings true), .fault (.acknowledgeAliases false),
    .operation 0 .cycle, .fault (.acknowledgeAliases true), .fault (.unavailable true),
    .operation 0 .cycle, .fault (.unavailable false)]

/-- After these mishaps the next rotation succeeds. It passes over the number of the recent index
and the numbers of the three indices that were left behind. -/
theorem cycle_recovers_from_mishaps :
    (Deployment.named "a" "recent").Accepted ∧ (Deployment.named "a" "recent").naming.Literal ∧
      ((start [.named "a" "recent", .named "b" "a_7"]).run mishaps).store.faults.Confirming ∧
      ((start [.named "a" "recent", .named "b" "a_7"]).run mishaps).hasRoom
        (.operation 0 .cycle) = true ∧
      ((start [.named "a" "recent", .named "b" "a_7"]).run mishaps).answer? 0 .cycle =
        some (.ok (.index "a_11")) ∧
      (((start [.named "a" "recent", .named "b" "a_7"]).run mishaps).step
        (.operation 0 .cycle)).store.aliases.targets "a_deflector" = ["a_11"] := by
  have haccepted : (Deployment.named "a" "recent").Accepted := .named rfl
  have hliteral : (Deployment.named "a" "recent").naming.Literal := by decide
  have hconfirming : ((start [.named "a" "recent", .named "b" "a_7"]).run
      mishaps).store.faults.Confirming := ⟨by decide, by decide, by decide, by decide⟩
  have hroom : ((start [.named "a" "recent", .named "b" "a_7"]).run mishaps).hasRoom
      (.operation 0 .cycle) = true := by decide
  have hanswer : ((start [.named "a" "recent", .named "b" "a_7"]).run mishaps).answer? 0 .cycle =
      some (.ok (.index "a_11")) := rfl
  obtain ⟨n, -, hindex, -, -, -, htargets, -⟩ :=
    cycle_recovers _ _ 0 _ rfl haccepted hliteral hconfirming hroom
  rw [hanswer, Option.some_inj, Except.ok.injEq, Answer.index.injEq] at hindex
  rw [← hindex] at htargets
  exact ⟨haccepted, hliteral, hconfirming, hroom, hanswer, htargets⟩

/-- Without room the rotation fails, for the name with the number zero is taken. -/
example : ((start [.named "a" "recent", .named "b" "a_18446744073709551615"]).run
    [.operation 0 .setup, .operation 1 .ensureRecentIndex]).answer? 0 .cycle =
      some (.error (.indexAlreadyExists "a_0")) := rfl

end Cluster

end RollingIndex
