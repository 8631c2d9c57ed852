import RollingIndex.Proofs.AliasSafety

/-!
# Isolation of deployments

A deployment asks the store for all indices whose names begin with its prefix and a separator, and
where one prefix extends another the answer holds the indices of the other deployment too. What
keeps them apart is that a rotated name is read with its number, and that every alias is bound
within its own name space (`Store.WellAliased`). So **no operation of one deployment touches the
alias or the rotated indices of a deployment with another prefix**, unless the recent index of the
first has been given a name of the second.
-/

namespace RollingIndex

variable {store after : Store} {d : Deployment} {operation : Operation}
  {result : Except Failure Answer} {q : Naming} {name : String}

namespace Store.WellAliased

/-- An item for a name that is neither the alias of a deployment nor numbered by it lands in no
index that this deployment numbers. -/
theorem indexNumber?_eq_none_of_lands (h : store.WellAliased) {item : BulkItem}
    (hlands : store.Lands name item) (halias : item.index ≠ q.writeAlias)
    (hnumber : q.indexNumber? item.index = none) : q.indexNumber? name = none := by
  have htarget := (lands_iff.mp hlands).1
  rw [AliasTable.writeTarget] at htarget
  split at htarget
  · cases htarget
    exact hnumber
  · rename_i bound hbound
    split at htarget
    · rename_i only hkeys
      cases htarget
      -- the item is addressed to an alias of another name space and lands there
      have hmem : name ∈ store.aliases.targets item.index :=
        AliasTable.mem_targets.mpr ⟨bound, hbound, by simp [hkeys]⟩
      obtain ⟨naming, n, hother, rfl, -⟩ := h.numbered hmem
      refine (naming.owns_indexName n).indexNumber?_eq_none fun hstem => halias ?_
      rw [hother, Naming.writeAlias_inj.mpr hstem]
    · cases htarget
    · cases htarget

/-- A bulk request keeps the invariant. -/
theorem bulk (h : store.WellAliased) (request : BulkRequest) :
    (Effect.on (Store.bulk request) store).2.WellAliased := by
  obtain ⟨haliases, -, hnames⟩ := bulk_frame request store
  refine h.of_targets_eq (fun aliasName => ?_) fun hindex => ?_
  · rw [haliases]
  · rw [hnames]
    exact h.exists_target hindex

/-- A batch changes no index numbered by a deployment to which neither of the two places belongs. -/
theorem get?_afterBatch (h : store.WellAliased) {records : List Record}
    (hstem : d.naming.stem ≠ q.stem) (halias : d.naming.recentIndex ≠ q.writeAlias)
    (hnumber : q.indexNumber? d.naming.recentIndex = none) (hname : q.indexNumber? name ≠ none) :
    (d.afterBatch records store).indices.get? name = store.indices.get? name := by
  have hother : d.naming.writeAlias ≠ q.writeAlias := fun heq =>
    hstem (Naming.writeAlias_inj.mp heq)
  have hmain : (d.afterMain records store).indices.get? name = store.indices.get? name := by
    refine get?_bulk_of_forall fun item hitem hlands => hname ?_
    obtain ⟨record, -, rfl⟩ := List.mem_map.mp hitem
    exact h.indexNumber?_eq_none_of_lands hlands hother (Naming.indexNumber?_writeAlias d.naming q)
  have hsafe : (d.afterMain records store).WellAliased := h.bulk (d.mainRequest records)
  rw [← hmain]
  refine get?_bulk_of_forall fun item hitem hlands => hname ?_
  obtain ⟨record, -, rfl⟩ := List.mem_map.mp hitem
  exact hsafe.indexNumber?_eq_none_of_lands hlands halias hnumber

/-- An operation of one deployment changes no index numbered by another with a different prefix. -/
theorem get?_transition (h : store.WellAliased)
    (htransition : d.Transition store operation result after)
    (hstem : d.naming.stem ≠ q.stem) (halias : d.naming.recentIndex ≠ q.writeAlias)
    (hnumber : q.indexNumber? d.naming.recentIndex = none) (hname : q.indexNumber? name ≠ none) :
    after.indices.get? name = store.indices.get? name := by
  -- the operation creates and lists names of its own prefix only, and this name has another
  have hrotated : ∀ n, name ≠ d.naming.indexName n := by
    rintro n rfl
    exact hname ((d.naming.owns_indexName n).indexNumber?_eq_none hstem)
  have hlisted : d.naming.isRotated name ≠ true := fun hlisted =>
    hname ((Naming.Owns.of_isRotated hlisted).indexNumber?_eq_none hstem)
  cases htransition with
  | kept => rfl
  | rotated _ result _ _ hrotation =>
    cases hrotation with
    | refused => rfl
    | stranded names step mapping => exact get?_withIndex_of_ne (hrotated _)
    | moved old names => exact get?_withIndex_of_ne (hrotated _)
  | created => exact get?_withIndex_of_ne fun heq => hname (heq ▸ hnumber)
  | wrote records => exact h.get?_afterBatch hstem halias hnumber hname
  | purged upTo names count hnames =>
    have hmem : name ∉ names := fun hmem => hlisted (Naming.of_mem_rotatedNames hnames hmem).1
    rw [get?_afterPurge]
    simp [hmem]
  | swept report current hcurrent hdeleted =>
    rw [get?_withoutIndices, if_neg fun hmem => hlisted (hdeleted name hmem).1]

end Store.WellAliased

namespace Cluster

/-- **Deployments are isolated.** After any run of any deployments with a store that was empty,
under any faults, an operation of a deployment with one prefix, successful or failing, leaves the
alias of a deployment with another prefix bound as before, leaves every index that the other counts
as rotated exactly as it was, and creates no such index. Either prefix may extend the other. The
recent index of the first must be neither the alias of the second nor numbered by it. -/
theorem act_isolated (ds : List Deployment) (events : List Event) (member : Nat) (p : Deployment)
    (q : Naming) (hp : ds[member]? = some p) (hstem : p.naming.stem ≠ q.stem)
    (halias : p.naming.recentIndex ≠ q.writeAlias)
    (hnumber : q.indexNumber? p.naming.recentIndex = none) (operation : Operation) :
    (((start ds).run events).act member (·.perform operation)).2.store.aliases.targets
        q.writeAlias = ((start ds).run events).store.aliases.targets q.writeAlias ∧
      ∀ name, q.isRotated name = true →
        (((start ds).run events).act member (·.perform operation)).2.store.indices.get? name =
          ((start ds).run events).store.indices.get? name := by
  have hsafe : ((start ds).run events).store.WellAliased :=
    wellAliased_run Store.wellAliased_empty events
  have hstep := ((start ds).run events).step_store (.operation member operation)
  rw [step] at hstep
  generalize (((start ds).run events).act member (·.perform operation)).2.store = after at hstep
  cases hstep with
  | absent _ _ hnone =>
    rw [deployments_run, deployments_start, hp] at hnone
    cases hnone
  | performed _ _ d result _ hd _ htransition =>
    rw [deployments_run, deployments_start, hp] at hd
    cases hd
    refine ⟨?_, fun name hrotated => ?_⟩
    · rcases hsafe.targets_transition htransition q.writeAlias with
        hsame | ⟨names, -, hown, -⟩
      · exact hsame
      · exact absurd (Naming.writeAlias_inj.mp hown) (Ne.symm hstem)
    · rw [Naming.isRotated, Bool.and_eq_true, Option.isSome_iff_ne_none] at hrotated
      exact hsafe.get?_transition htransition hstem halias hnumber hrotated.2

/-- A rotation under the prefix `a` leaves the alias and the index of the prefix `a_0` alone, though
the pattern of the first finds them. -/
theorem act_isolated_extended_prefix :
    "a" ≠ "a_0" ∧ "a_recent" ≠ Naming.writeAlias ⟨"a_0", "recent"⟩ ∧
      Naming.indexNumber? ⟨"a_0", "recent"⟩ "a_recent" = none ∧
      (((start [.named "a" "a_recent", .named "a_0" "recent"]).run
          [.operation 0 .setup, .operation 1 .setup]).act 0
            (·.perform .cycle)).2.store.indices.get? "a_0_0" =
        ((start [.named "a" "a_recent", .named "a_0" "recent"]).run
          [.operation 0 .setup, .operation 1 .setup]).store.indices.get? "a_0_0" :=
  ⟨by decide, by decide, by decide,
    (act_isolated _ _ 0 (.named "a" "a_recent") ⟨"a_0", "recent"⟩ rfl (by decide) (by decide)
      (by decide) .cycle).2 "a_0_0" (by decide)⟩

end Cluster

end RollingIndex
