import RollingIndex.Proofs.Runs

/-!
# The safety of aliases

Deployments that share a store have no agreement about names, and a sweep unbinds whatever is bound
to the indices that it deletes. All the same:

* **an alias is bound to at most one index, which exists and is numbered by the prefix of the
  alias**;
* **an alias that was bound once stays bound**, whatever any deployment does and however it fails.

The invariant is `Store.WellAliased`: every alias is bound within its own name space. A sweep
deletes within the name space of its deployment and spares what the alias of that name space leads
to, so it unbinds nothing at all; only a rotation changes what an alias leads to, and only that of
its own name space (`Store.WellAliased.targets_transition`).
-/

namespace RollingIndex

variable {store after : Store} {d : Deployment} {operation : Operation}
  {result : Except Failure Answer} {aliasName index : String}

namespace Store

/-! ## The invariant -/

/-- Every alias is bound to at most one index, which exists and bears a number in the name space of
the alias. -/
structure WellAliased (store : Store) : Prop where
  /-- what an alias is bound to is numbered by the prefix of the alias -/
  numbered : ∀ {aliasName index : String}, index ∈ store.aliases.targets aliasName →
    ∃ (naming : Naming) (n : Nat),
      aliasName = naming.writeAlias ∧ index = naming.indexName n ∧ n < powerOfTwo 64
  /-- what an alias is bound to exists -/
  exists_target : ∀ {aliasName index : String},
    index ∈ store.aliases.targets aliasName → store.indices.contains index = true
  /-- an alias is bound to one index at most -/
  unique : ∀ {aliasName index index' : String}, index ∈ store.aliases.targets aliasName →
    index' ∈ store.aliases.targets aliasName → index = index'

theorem wellAliased_empty : WellAliased {} where
  numbered h := by cases h
  exists_target h := by cases h
  unique h := by cases h

namespace WellAliased

/-- What the alias of a deployment is bound to is numbered by that deployment. -/
theorem eq_indexName (h : store.WellAliased) {naming : Naming}
    (hindex : index ∈ store.aliases.targets naming.writeAlias) :
    ∃ n, index = naming.indexName n ∧ n < powerOfTwo 64 := by
  obtain ⟨other, n, halias, rfl, hn⟩ := h.numbered hindex
  have hstem : naming.stem = other.stem := Naming.writeAlias_inj.mp halias
  exact ⟨n, by rw [Naming.indexName, Naming.indexName, hstem], hn⟩

/-- What the alias of a deployment is bound to has a number. -/
theorem indexNumber?_ne_none (h : store.WellAliased) {naming : Naming}
    (hindex : index ∈ store.aliases.targets naming.writeAlias) :
    naming.indexNumber? index ≠ none := by
  obtain ⟨n, rfl, hn⟩ := h.eq_indexName hindex
  rw [naming.indexNumber?_indexName hn]
  exact Option.some_ne_none n

/-- Changes that leave the bindings as they are and keep what is bound. -/
theorem of_targets_eq (h : store.WellAliased)
    (htargets : ∀ aliasName, after.aliases.targets aliasName = store.aliases.targets aliasName)
    (hkept : ∀ {aliasName index : String}, index ∈ store.aliases.targets aliasName →
      after.indices.contains index = true) :
    after.WellAliased where
  numbered hindex := h.numbered (htargets _ ▸ hindex)
  exists_target hindex := hkept (htargets _ ▸ hindex)
  unique hindex hindex' := h.unique (htargets _ ▸ hindex) (htargets _ ▸ hindex')

/-- An alias that is bound is bound to one index only. -/
theorem targets_eq_singleton (h : store.WellAliased)
    (hindex : index ∈ store.aliases.targets aliasName) :
    store.aliases.targets aliasName = [index] :=
  AliasTable.targets_eq_singleton_iff.mpr fun _ =>
    ⟨fun hindex' => h.unique hindex' hindex, fun heq => heq ▸ hindex⟩

theorem length_targets_le (h : store.WellAliased) (aliasName : String) :
    (store.aliases.targets aliasName).length ≤ 1 := by
  cases htargets : store.aliases.targets aliasName with
  | nil => exact Nat.zero_le 1
  | cons index rest =>
    have hindex : index ∈ store.aliases.targets aliasName := htargets ▸ List.mem_cons_self ..
    rw [← htargets, h.targets_eq_singleton hindex]
    exact Nat.le_refl 1

/-! ## What an operation does to aliases -/

/-- What a deployment counts as rotated is bound to no alias but its own, for a name has one
stem. -/
theorem eq_writeAlias_of_isRotated (h : store.WellAliased)
    (hindex : index ∈ store.aliases.targets aliasName)
    (hrotated : d.naming.isRotated index = true) : aliasName = d.naming.writeAlias := by
  obtain ⟨naming, n, rfl, rfl, -⟩ := h.numbered hindex
  exact Naming.writeAlias_inj.mpr
    (Naming.stem_eq_of_owns (naming.owns_indexName n) (.of_isRotated hrotated))

/-- A sweep deletes nothing that any alias is bound to. -/
theorem notMem_of_swept (h : store.WellAliased) {deleted : List String} {current : String}
    (hcurrent : store.aliases.targets d.naming.writeAlias = [current])
    (hdeleted : ∀ name ∈ deleted, d.naming.isRotated name = true ∧ name ≠ current)
    (hindex : index ∈ store.aliases.targets aliasName) : index ∉ deleted := by
  intro hmem
  obtain ⟨hrotated, hne⟩ := hdeleted index hmem
  -- the alias is the one that the sweep spares the target of
  rw [h.eq_writeAlias_of_isRotated hindex hrotated, hcurrent] at hindex
  exact hne (List.mem_singleton.mp hindex)

/-- What an alias is bound to outlives every operation. -/
theorem contains_transition (h : store.WellAliased)
    (htransition : d.Transition store operation result after)
    (hindex : index ∈ store.aliases.targets aliasName) : after.indices.contains index = true := by
  refine (htransition.contains_or_swept (h.exists_target hindex)).resolve_right ?_
  rintro ⟨-, hrotated, hunbound⟩
  exact hunbound (h.eq_writeAlias_of_isRotated hindex hrotated ▸ hindex)

/-- **Only a rotation changes what an alias leads to**: it leads to the new index if the alias is
the one of the deployment that rotates, and to the same index as before else. -/
theorem targets_transition (h : store.WellAliased)
    (htransition : d.Transition store operation result after) (aliasName : String) :
    after.aliases.targets aliasName = store.aliases.targets aliasName ∨
      ∃ names, d.rotates store operation = true ∧ aliasName = d.naming.writeAlias ∧
        d.naming.rotatedNames store = .ok names ∧
        after.aliases.targets aliasName = [d.naming.nextName names] ∧
        after.indices.contains (d.naming.nextName names) = true := by
  cases htransition with
  | kept => exact .inl rfl
  | rotated _ result _ hrotates hrotation =>
    cases hrotation with
    | refused => exact .inl rfl
    | stranded => exact .inl rfl
    | moved old names hold hnames =>
      have htargets := Deployment.targets_cutover (targets_of_currentTarget hold)
        (d.naming.nextName names) aliasName
      by_cases halias : aliasName = d.naming.writeAlias
      · rw [if_pos halias] at htargets
        exact .inr ⟨names, hrotates, halias, hnames, htargets,
          store.contains_withIndex_self _ _ _⟩
      · rw [if_neg halias] at htargets
        exact .inl htargets
  | created => exact .inl rfl
  | wrote records =>
    have hframe := (d.afterBatch_frame records store).1
    exact .inl (by rw [hframe])
  | purged => exact .inl rfl
  | swept report current hcurrent hdeleted =>
    refine .inl (AliasTable.targets_ext fun index => ?_)
    rw [mem_targets_withoutIndices]
    exact ⟨And.right, fun hindex => ⟨h.notMem_of_swept hcurrent hdeleted hindex, hindex⟩⟩

/-- **Every operation keeps the invariant.** -/
theorem transition (h : store.WellAliased)
    (htransition : d.Transition store operation result after) : after.WellAliased where
  numbered {aliasName index} hindex := by
    rcases h.targets_transition htransition aliasName with
      hsame | ⟨names, -, rfl, -, hnew, -⟩
    · exact h.numbered (hsame ▸ hindex)
    · rw [hnew, List.mem_singleton] at hindex
      exact ⟨d.naming, d.naming.nextNumber names, rfl, hindex, d.naming.nextNumber_lt names⟩
  exists_target {aliasName index} hindex := by
    rcases h.targets_transition htransition aliasName with hsame | ⟨names, -, -, -, hnew, hexists⟩
    · exact h.contains_transition htransition (hsame ▸ hindex)
    · rw [hnew, List.mem_singleton] at hindex
      rw [hindex]
      exact hexists
  unique {aliasName index index'} hindex hindex' := by
    rcases h.targets_transition htransition aliasName with hsame | ⟨names, -, -, -, hnew, -⟩
    · exact h.unique (hsame ▸ hindex) (hsame ▸ hindex')
    · rw [hnew, List.mem_singleton] at hindex hindex'
      rw [hindex, hindex']

end WellAliased

end Store

namespace Cluster

variable {cluster : Cluster} {event : Event}

/-! ## Runs -/

/-- **Every event keeps the invariant.** -/
theorem wellAliased_step (h : cluster.store.WellAliased) (event : Event) :
    (cluster.step event).store.WellAliased := by
  have hstep := cluster.step_store event
  generalize (cluster.step event).store = after at hstep
  cases hstep with
  | switched fault => exact h.of_targets_eq (fun _ => rfl) h.exists_target
  | absent => exact h
  | performed _ _ _ _ _ _ _ htransition => exact h.transition htransition

/-- The invariant holds after every run. -/
theorem wellAliased_run (h : cluster.store.WellAliased) (events : List Event) :
    (cluster.run events).store.WellAliased := by
  induction events generalizing cluster with
  | nil => exact h
  | cons event events ih => exact ih (wellAliased_step h event)

/-- An event never unbinds an alias. -/
theorem targets_ne_nil_step (h : cluster.store.WellAliased)
    (hbound : cluster.store.aliases.targets aliasName ≠ []) (event : Event) :
    (cluster.step event).store.aliases.targets aliasName ≠ [] := by
  have hstep := cluster.step_store event
  generalize (cluster.step event).store = after at hstep
  cases hstep with
  | switched => exact hbound
  | absent => exact hbound
  | performed member operation d result _ hd _ htransition =>
    rcases h.targets_transition htransition aliasName with hsame | ⟨names, -, -, -, hnew, -⟩
    · rw [hsame]
      exact hbound
    · rw [hnew]
      exact List.cons_ne_nil _ _

/-- **An alias that is bound stays bound.** -/
theorem targets_ne_nil_run (h : cluster.store.WellAliased)
    (hbound : cluster.store.aliases.targets aliasName ≠ []) (events : List Event) :
    (cluster.run events).store.aliases.targets aliasName ≠ [] := by
  induction events generalizing cluster with
  | nil => exact hbound
  | cons event events ih =>
    exact ih (wellAliased_step h event) (targets_ne_nil_step h hbound event)

/-- **Aliases are safe in every run** of any deployments with a store that was empty, under any
faults, also where the numbers run out. After the run the alias of a deployment is bound to one
index at most, and that index exists and is one of the rotated names of the prefix; its number is
read back, and the deployment counts it as rotated if the recent index has a name of its own. And if
the alias was bound at some moment of the run, it is bound after the run. -/
theorem run_alias_safe (ds : List Deployment) (before rest : List Event) :
    ∀ d ∈ ds,
      (((start ds).run (before ++ rest)).store.aliases.targets d.naming.writeAlias).length ≤ 1 ∧
      (∀ index ∈ ((start ds).run (before ++ rest)).store.aliases.targets d.naming.writeAlias,
        ((start ds).run (before ++ rest)).store.indices.contains index = true ∧
        (∃ n, n < powerOfTwo 64 ∧ index = d.naming.indexName n ∧
          d.naming.indexNumber? index = some n) ∧
        (index ≠ d.naming.recentIndex → d.naming.isRotated index = true)) ∧
      (((start ds).run before).store.aliases.targets d.naming.writeAlias ≠ [] →
        ((start ds).run (before ++ rest)).store.aliases.targets d.naming.writeAlias ≠ []) := by
  intro d _
  have hsafe : ((start ds).run (before ++ rest)).store.WellAliased :=
    wellAliased_run Store.wellAliased_empty _
  refine ⟨hsafe.length_targets_le _, fun index hindex => ?_, fun hbound => ?_⟩
  · obtain ⟨n, rfl, hn⟩ := hsafe.eq_indexName hindex
    have hnumber := d.naming.indexNumber?_indexName hn
    refine ⟨hsafe.exists_target hindex, ⟨n, hn, rfl, hnumber⟩, fun hne => ?_⟩
    rw [Naming.isRotated, hnumber]
    simpa using hne
  · rw [run_append]
    exact targets_ne_nil_run (wellAliased_run Store.wellAliased_empty before) hbound rest

/-- Two deployments, the prefix of one extending that of the other: the alias of the first stays
bound when the second sweeps and when a rotation of the first fails. -/
theorem run_alias_safe_extended_prefix :
    ((start [.named "a" "a_recent", .named "a_0" "recent"]).run
        [.operation 0 .setup]).store.aliases.targets "a_deflector" ≠ [] ∧
      ((start [.named "a" "a_recent", .named "a_0" "recent"]).run
        ([.operation 0 .setup] ++
          [.operation 1 .setup, .fault (.acknowledgeAliases false), .operation 0 .cycle,
            .operation 1 .sweep])).store.aliases.targets "a_deflector" ≠ [] :=
  ⟨by decide, (run_alias_safe _ _ _ (.named "a" "a_recent") (by simp)).2.2 (by decide)⟩

end Cluster

end RollingIndex
