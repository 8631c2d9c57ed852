import Mathlib.Data.List.Induction
import RollingIndex.Proofs.Consistency

/-!
# Names of indices and names of aliases

An item of a bulk request names an index or an alias, and where a name is both, the alias counts. A
store gives a new index no name that an alias has, but it lets an alias take the name of an index
that exists: from then on what is written under that name goes where the alias leads.

* **That is the only way to a name of both kinds** (`Store.Apart.step_iff`): every event keeps the
  names of indices and aliases apart, except a change of aliases whose last action about some pair
  binds an alias that has the name of an index (`Store.Covers`).
* **While the names are apart, what is written to an index lands there**
  (`Store.Apart.lands_iff`).

Both are put together for whole histories in `Store.apart_throughout_iff`.
-/

namespace RollingIndex

namespace Store

variable {store : Store} {name : String} {event : StoreEvent}

/-- No name is that of an index and of an alias. -/
def Apart (store : Store) : Prop :=
  ∀ name, store.indices.contains name = true → store.aliases.contains name = false

/-- The event gives an alias the name of an index that exists: it is a change of aliases that the
store confirms, and what it does last about that name and some index is to bind them. -/
def Covers (store : Store) (event : StoreEvent) : Prop :=
  ∃ actions name index, event = .operation (.updateAliases actions) ∧
    (Effect.on (updateAliases actions) store).1 = .ok true ∧
    store.indices.contains name = true ∧
    AliasTable.lastAbout actions name index = some (.add index name)

theorem apart_empty : Apart {} := fun _ hindex => by cases hindex

namespace Apart

/-! ## One event -/

/-- A change of indices that brings no name and leaves the aliases alone. -/
theorem of_contains (h : store.Apart) {after : Store} (haliases : after.aliases = store.aliases)
    (hindices : ∀ name, after.indices.contains name = true → store.indices.contains name = true) :
    after.Apart := by
  intro name hindex
  rw [haliases]
  exact h name (hindices name hindex)

theorem withIndex (h : store.Apart) (hfree : store.Free name) (settings : IndexSettings)
    (mapping : Option Json) : (store.withIndex name settings mapping).Apart := by
  intro other hindex
  by_cases hother : other = name
  · rw [hother]
    exact contains_eq_false_iff.mpr hfree.2
  · rw [Table.contains, get?_withIndex_of_ne hother] at hindex
    exact h other hindex

theorem withoutIndex (h : store.Apart) (name : String) : (store.withoutIndex name).Apart := by
  intro other hindex
  have hbefore : store.indices.contains other = true := by
    rw [Store.withoutIndex, Table.contains, Table.get?_erase] at hindex
    split at hindex
    · cases hindex
    · exact hindex
  -- an alias that is left was there before
  refine Bool.eq_false_iff.mpr fun halias => ?_
  obtain ⟨index, htarget⟩ := AliasTable.exists_mem_of_contains_prune halias
  rw [← AliasTable.targets_prune, ← AliasTable.withoutIndex,
    AliasTable.mem_targets_withoutIndex] at htarget
  have hcontains := AliasTable.contains_of_mem_targets htarget.2
  rw [h other hbefore] at hcontains
  cases hcontains

/-- A change of aliases keeps the names apart unless it ends by binding an alias that has the name
of an index. -/
theorem apply_iff (h : store.Apart) (actions : List AliasAction) :
    Apart { store with aliases := store.aliases.apply actions } ↔
      ∀ name index, store.indices.contains name = true →
        AliasTable.lastAbout actions name index ≠ some (.add index name) := by
  constructor
  · intro hafter name index hindex hlast
    have htarget : index ∈ (store.aliases.apply actions).targets name :=
      AliasTable.mem_targets_apply_iff.mpr (.inl hlast)
    have hcontains := AliasTable.contains_of_mem_targets htarget
    rw [show (store.aliases.apply actions).contains name = false from hafter name hindex]
      at hcontains
    cases hcontains
  · intro hlast name hindex
    refine Bool.eq_false_iff.mpr fun halias => ?_
    obtain ⟨index, htarget⟩ := AliasTable.exists_mem_of_contains_prune halias
    rw [← AliasTable.targets_prune, ← AliasTable.apply,
      AliasTable.mem_targets_apply_iff] at htarget
    rcases htarget with hadd | ⟨-, hbefore⟩
    · exact hlast name index hindex hadd
    · have hcontains := AliasTable.contains_of_mem_targets hbefore
      rw [h name hindex] at hcontains
      cases hcontains

/-- Every event but a change of aliases keeps the names apart. -/
theorem step_of_ne (h : store.Apart)
    (hne : ∀ actions, event ≠ .operation (.updateAliases actions)) : (store.step event).Apart := by
  have hstep := step_spec store event
  generalize store.step event = after at hstep
  cases hstep with
  | kept => exact h
  | switched => exact h
  | created name settings hfree => exact h.withIndex hfree settings none
  | mapped name mapping =>
    refine h.of_contains rfl fun other hindex => ?_
    rw [Table.contains, Table.get?_modify] at hindex
    split at hindex
    · rwa [Option.isSome_map] at hindex
    · exact hindex
  | deleted name => exact h.withoutIndex name
  | realiased actions => exact absurd rfl (hne actions)
  | written request =>
    exact h.of_contains rfl fun name hindex =>
      (sameNames_afterItems store request.items name).symm.trans hindex
  | purged names field first last =>
    exact h.of_contains rfl fun name hindex =>
      (sameNames_of_get?_eq_map (get?_afterPurge store names field first last) name).symm.trans
        hindex

/-- **An event keeps the names apart exactly if it gives no alias the name of an index.** -/
theorem step_iff (h : store.Apart) (event : StoreEvent) :
    (store.step event).Apart ↔ ¬ store.Covers event := by
  by_cases hevent : ∃ actions, event = .operation (.updateAliases actions)
  · obtain ⟨actions, rfl⟩ := hevent
    have hcovers : store.Covers (.operation (.updateAliases actions)) ↔
        (Effect.on (updateAliases actions) store).1 = .ok true ∧
          ∃ name index, store.indices.contains name = true ∧
            AliasTable.lastAbout actions name index = some (.add index name) := by
      constructor
      · rintro ⟨_, name, index, heq, hok, hindex, hlast⟩
        cases heq
        exact ⟨hok, name, index, hindex, hlast⟩
      · rintro ⟨hok, name, index, hindex, hlast⟩
        exact ⟨actions, name, index, rfl, hok, hindex, hlast⟩
    rw [hcovers, Store.step, StoreOperation.perform, Effect.on_bind_pure]
    rcases updateAliases_cases actions store with ⟨e, hupdate⟩ | hupdate | ⟨-, hupdate⟩
    · simp [hupdate, h]
    · simp [hupdate, h]
    · rw [hupdate]
      refine (h.apply_iff actions).trans ?_
      simp only [true_and, not_exists, not_and, ne_eq]
  · refine iff_of_true (h.step_of_ne fun actions heq => hevent ⟨actions, heq⟩) ?_
    rintro ⟨actions, _, _, heq, -⟩
    exact hevent ⟨actions, heq⟩

/-! ## Items for an index -/

/-- A name of an index leads to that index. -/
theorem writeTarget_eq (h : store.Apart) (hindex : store.indices.contains name = true) :
    store.aliases.writeTarget name = .ok name := by
  rw [AliasTable.writeTarget, contains_eq_false_iff.mp (h name hindex)]

/-- An item for an index is written there, unless the store refuses it. -/
theorem itemResult_eq (h : store.Apart) {item : BulkItem}
    (hindex : store.indices.contains item.index = true) :
    store.itemResult item =
      { index := item.index, id := item.id,
        failure :=
          if store.faults.rejectedDocuments.contains (item.index, item.id) then some .rejected
          else none } := by
  obtain ⟨index, hget⟩ := Table.contains_eq_true_iff.mp hindex
  rw [itemResult, writeItem, h.writeTarget_eq hindex]
  dsimp only
  split
  · rfl
  · rw [hget]

/-- **An item for an index lands there**, and nowhere else, unless the store refuses it. -/
theorem lands_iff (h : store.Apart) {item : BulkItem}
    (hindex : store.indices.contains item.index = true) :
    store.Lands name item ↔
      name = item.index ∧
        store.faults.rejectedDocuments.contains (item.index, item.id) = false := by
  rw [Store.lands_iff, h.writeTarget_eq hindex, Except.ok.injEq]
  constructor
  · rintro ⟨rfl, haccepted, -⟩
    exact ⟨rfl, haccepted⟩
  · rintro ⟨rfl, haccepted⟩
    exact ⟨rfl, haccepted, hindex⟩

end Apart

/-! ## Whole histories -/

theorem run_append_singleton (history : List StoreEvent) (event : StoreEvent) :
    run (history ++ [event]) = (run history).step event := by
  rw [run, List.foldl_append]
  rfl

/-- **When names stay apart.** The names of indices and aliases are apart throughout a history
exactly if no event of it gives an alias the name of an index that exists then. And where they are
apart, every item of an answered request that names an index lands in that very index, and fails
only if the store refuses the document. -/
theorem apart_throughout_iff (history : List StoreEvent) :
    ((∀ before, before <+: history → (run before).Apart) ↔
      ∀ before event, before ++ [event] <+: history → ¬ (run before).Covers event) ∧
    ((run history).Apart → ∀ request results after,
      Effect.on (bulk request) (run history) = (.ok results, after) →
        ∀ (k : Nat) (item : BulkItem), request.items[k]? = some item →
          (run history).indices.contains item.index = true →
            results[k]? = some
              { index := item.index, id := item.id,
                failure :=
                  if (run history).faults.rejectedDocuments.contains (item.index, item.id) then
                    some .rejected
                  else none } ∧
            ∀ name, (run history).Lands name item ↔ name = item.index ∧
              (run history).faults.rejectedDocuments.contains (item.index, item.id) = false) := by
  refine ⟨⟨fun h before event hprefix => ?_, fun h before => ?_⟩, ?_⟩
  · have hbefore : (run before).Apart := h before ((List.prefix_append _ _).trans hprefix)
    have hafter : (run (before ++ [event])).Apart := h _ hprefix
    rw [run_append_singleton] at hafter
    exact (hbefore.step_iff event).mp hafter
  · -- from the empty history on, one event after the other
    induction before using List.reverseRecOn with
    | nil => exact fun _ => apart_empty
    | append_singleton before event ih =>
      intro hprefix
      rw [run_append_singleton]
      exact ((ih ((List.prefix_append _ _).trans hprefix)).step_iff event).mpr
        (h before event hprefix)
  · intro hapart request results after hbulk k item hitem hindex
    refine ⟨?_, fun name => hapart.lands_iff hindex⟩
    rcases bulk_cases request (run history) with ⟨e, hfailed⟩ | hwritten
    · rw [hfailed] at hbulk
      cases hbulk
    · rw [hwritten] at hbulk
      cases hbulk
      rw [List.getElem?_map, hitem, Option.map_some, hapart.itemResult_eq hindex]

/-- An alias that takes the name of an index takes over what is written under that name. -/
theorem apart_broken_by_alias :
    ¬ (∀ history : List StoreEvent, (run history).Apart) ∧
      (run [.operation (.create "a" { shards := 1, replicas := 0 }),
        .operation (.create "b" { shards := 1, replicas := 0 }),
        .operation (.updateAliases [.add "a" "b"])]).indices.contains "b" = true ∧
      (Effect.on (bulk { items := [{ index := "b", id := "x", source := .null }] })
        (run [.operation (.create "a" { shards := 1, replicas := 0 }),
          .operation (.create "b" { shards := 1, replicas := 0 }),
          .operation (.updateAliases [.add "a" "b"])])).1 =
        .ok [{ index := "a", id := "x", failure := none }] := by
  refine ⟨fun h => ?_, by decide, rfl⟩
  have hapart := h [.operation (.create "a" { shards := 1, replicas := 0 }),
    .operation (.create "b" { shards := 1, replicas := 0 }),
    .operation (.updateAliases [.add "a" "b"])] "b" (by decide)
  cases hapart

end Store

end RollingIndex
