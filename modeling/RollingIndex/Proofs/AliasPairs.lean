import Mathlib.Data.Set.Insert
import RollingIndex.Proofs.BulkSemantics

/-!
# The table of aliases as a set of pairs

A table of aliases keeps a set of indices for each alias, makes an entry when an alias is bound for
the first time and drops it when nothing is left in it. All this says no more than a set of pairs
does (`AliasTable.pairs`), to which a binding adds its pair and from which an unbinding takes it:

* **what a list of actions does to the table is what it does to the pairs**, one action after the
  other (`AliasTable.pairs_apply`), although the table is rid of empty entries only at the end;
* **a table without empty entries is determined by its pairs** (`AliasTable.prune_eq_of_pairs`), so
  two lists with the same last action about each pair leave the same table;
* **the indices of an alias are listed in strictly ascending order** (`Table.pairwise_keys`).

What this means for the operations of a store is put together in `Store.aliases_refine_pairs`.
-/

namespace RollingIndex

theorem Table.pairwise_keys {α : Type} (t : Table α) : t.keys.Pairwise (· < ·) :=
  List.pairwise_map.mpr t.ascending

/-- What an action does to a set of pairs of an index and an alias. -/
def AliasAction.onPairs (pairs : Set (String × String)) : AliasAction → Set (String × String)
  | .add index aliasName => insert (index, aliasName) pairs
  | .remove index aliasName => pairs \ {(index, aliasName)}

namespace AliasTable

variable {aliases aliases' : AliasTable} {actions actions' : List AliasAction} {a i j : String}

/-! ## Tables and pairs -/

/-- The pairs of an index and an alias that is bound to it. -/
def pairs (aliases : AliasTable) : Set (String × String) :=
  {pair | ∃ bound, aliases.get? pair.2 = some bound ∧ bound.contains pair.1 = true}

theorem mem_pairs : (i, a) ∈ aliases.pairs ↔ i ∈ aliases.targets a := by
  rw [mem_targets]
  simp only [pairs, Set.mem_ofPred_eq, Table.contains_eq_true_iff, Table.mem_keys_iff]

/-- Tables with the same pairs have the same targets. -/
theorem targets_eq_of_pairs (h : aliases.pairs = aliases'.pairs) (a : String) :
    aliases.targets a = aliases'.targets a :=
  targets_ext fun i => by rw [← mem_pairs, h, mem_pairs]

/-- Dropping the empty entries changes no pair. -/
theorem pairs_prune (aliases : AliasTable) : (prune aliases).pairs = aliases.pairs := by
  ext ⟨i, a⟩
  rw [mem_pairs, mem_pairs, targets_prune]

/-- **A table without empty entries is determined by its pairs.** -/
theorem prune_eq_of_pairs (h : aliases.pairs = aliases'.pairs) :
    prune aliases = prune aliases' := by
  apply Table.ext_get?
  intro a
  refine get?_eq_of_targets keys_ne_nil_of_get?_prune keys_ne_nil_of_get?_prune ?_
  rw [targets_prune, targets_prune, targets_eq_of_pairs h]

/-! ## Changes -/

/-- One action does to the table what it does to the pairs. -/
theorem pairs_act (aliases : AliasTable) (action : AliasAction) :
    (act aliases action).pairs = action.onPairs aliases.pairs := by
  ext ⟨i, a⟩
  rw [mem_pairs, mem_targets_act]
  cases action with
  | add index aliasName =>
    simp only [AliasAction.onPairs, Set.mem_insert_iff, mem_pairs, AliasAction.add.injEq,
      Prod.mk.injEq, ne_eq, reduceCtorEq, not_false_eq_true, true_and]
    rw [eq_comm (a := index), eq_comm (a := aliasName)]
  | remove index aliasName =>
    simp only [AliasAction.onPairs, Set.mem_sdiff, Set.mem_singleton_iff, mem_pairs, reduceCtorEq,
      false_or, ne_eq, AliasAction.remove.injEq, Prod.mk.injEq]
    rw [eq_comm (a := index), eq_comm (a := aliasName), and_comm]

theorem pairs_foldl_act (aliases : AliasTable) (actions : List AliasAction) :
    (actions.foldl act aliases).pairs = actions.foldl AliasAction.onPairs aliases.pairs := by
  induction actions generalizing aliases with
  | nil => rfl
  | cons action actions ih => rw [List.foldl_cons, List.foldl_cons, ih, pairs_act]

/-- **A list of actions does to the table what it does to the pairs**, one action after the
other. -/
theorem pairs_apply (aliases : AliasTable) (actions : List AliasAction) :
    (apply aliases actions).pairs = actions.foldl AliasAction.onPairs aliases.pairs := by
  rw [apply, pairs_prune, pairs_foldl_act]

/-- Two lists with the same last action about each pair leave the same table. -/
theorem apply_eq_of_lastAbout (h : ∀ a i, lastAbout actions a i = lastAbout actions' a i) :
    apply aliases actions = apply aliases actions' := by
  refine prune_eq_of_pairs ?_
  rw [← pairs_prune, ← apply, ← pairs_prune (actions'.foldl _ _), ← apply]
  ext ⟨i, a⟩
  rw [mem_pairs, mem_pairs, mem_targets_apply_iff, mem_targets_apply_iff, h]

/-- Unbinding an index takes out the pairs with that index. -/
theorem pairs_withoutIndex (aliases : AliasTable) (j : String) :
    (withoutIndex aliases j).pairs = {pair ∈ aliases.pairs | pair.1 ≠ j} := by
  ext ⟨i, a⟩
  rw [mem_pairs, mem_targets_withoutIndex, Set.mem_sep_iff, mem_pairs, and_comm]

end AliasTable

namespace Store

variable {store : Store} {actions : List AliasAction}

/-! ## Operations of a store -/

/-- A request to change the aliases fails exactly if the store cannot be reached or an index is
missing that one of its actions binds to. -/
theorem updateAliases_fails_iff :
    (∃ e, (Effect.on (updateAliases actions) store).1 = .error e) ↔
      store.faults.unavailable = true ∨
        ∃ index aliasName, .add index aliasName ∈ actions ∧
          store.indices.contains index = false := by
  rw [on_updateAliases]
  cases store.faults.unavailable with
  | true => simp
  | false =>
    simp only [Bool.false_eq_true, if_false, false_or]
    cases hfound : (actions.filterMap AliasAction.added?).find? fun index =>
        !store.indices.contains index with
    | some missing =>
      obtain ⟨action, haction, hadded⟩ :=
        List.mem_filterMap.mp (List.mem_of_find?_eq_some hfound)
      have hmissing := List.find?_some hfound
      cases action with
      | remove => cases hadded
      | add index aliasName =>
        cases hadded
        exact iff_of_true ⟨_, rfl⟩ ⟨_, aliasName, haction, by simpa using hmissing⟩
    | none =>
      refine iff_of_false ?_ ?_
      · dsimp only
        split <;> exact fun ⟨e, h⟩ => by cases h
      · rintro ⟨index, aliasName, hadd, hmissing⟩
        have hexists := List.find?_eq_none.mp hfound index
          (List.mem_filterMap.mpr ⟨_, hadd, rfl⟩)
        simp [hmissing] at hexists

/-- What a request to change the aliases comes to, seen as a change of the pairs. -/
structure ChangesPairs (store : Store) (actions : List AliasAction) (answer : Except Failure Bool)
    (after : Store) : Prop where
  /-- if it is confirmed, the actions are carried out on the pairs one after the other, -/
  carried : answer = .ok true →
    after.aliases.pairs = actions.foldl AliasAction.onPairs store.aliases.pairs
  /-- so that a pair is bound if the last action about it binds it, or if no action is about it and
  it was bound before, -/
  last : answer = .ok true → ∀ index aliasName, (index, aliasName) ∈ after.aliases.pairs ↔
    AliasTable.lastAbout actions aliasName index = some (.add index aliasName) ∨
      AliasTable.lastAbout actions aliasName index = none ∧
        (index, aliasName) ∈ store.aliases.pairs
  /-- and nothing but the aliases is changed -/
  rest : after = { store with aliases := after.aliases }
  /-- it fails if the store cannot be reached or an index is missing that an action binds to, also
  one that a later action unbinds, and not otherwise -/
  fails : (∃ e, answer = .error e) ↔ store.faults.unavailable = true ∨
    ∃ index aliasName, .add index aliasName ∈ actions ∧ store.indices.contains index = false
  /-- it is confirmed if it does not fail and the store confirms changes of aliases -/
  confirmed : answer = .ok true ↔
    (∀ e, answer ≠ .error e) ∧ store.faults.acknowledgesAliases = true
  /-- nothing is changed if it is not confirmed -/
  kept : answer ≠ .ok true → after = store

/-- A request to change the aliases that does not fail answers whether the store confirms such
changes. -/
theorem updateAliases_confirms {confirmed : Bool}
    (h : (Effect.on (updateAliases actions) store).1 = .ok confirmed) :
    confirmed = store.faults.acknowledgesAliases := by
  rw [on_updateAliases] at h
  split at h
  · cases h
  · split at h
    · cases h
    · split at h <;> cases h <;> simp_all

theorem changesPairs (store : Store) (actions : List AliasAction) :
    store.ChangesPairs actions (Effect.on (updateAliases actions) store).1
      (Effect.on (updateAliases actions) store).2 := by
  have hfails := @updateAliases_fails_iff store actions
  have hconfirms := @updateAliases_confirms store actions
  rcases updateAliases_cases actions store with ⟨e, hrun⟩ | hrun | ⟨-, hrun⟩ <;>
    rw [hrun] at hfails hconfirms ⊢
  · exact
      { carried := nofun
        last := nofun
        rest := rfl
        fails := hfails
        confirmed := ⟨nofun, fun h => absurd rfl (h.1 e)⟩
        kept := fun _ => rfl }
  · exact
      { carried := nofun
        last := nofun
        rest := rfl
        fails := hfails
        confirmed := ⟨nofun, fun h => by rw [← h.2, ← hconfirms rfl]⟩
        kept := fun _ => rfl }
  · exact
      { carried := fun _ => AliasTable.pairs_apply store.aliases actions
        last := fun _ index aliasName => by
          rw [AliasTable.mem_pairs, AliasTable.mem_pairs]
          exact AliasTable.mem_targets_apply_iff
        rest := rfl
        fails := hfails
        confirmed := iff_of_true rfl ⟨nofun, (hconfirms rfl).symm⟩
        kept := fun h => absurd rfl h }

/-- The indices of an alias, in strictly ascending order, are those that are paired with it. -/
theorem aliasTargets_eq_pairs (hreached : store.faults.unavailable = false) (aliasName : String) :
    ∃ targets, store.aliasTargets aliasName = .ok targets ∧ targets.Pairwise (· < ·) ∧
      ∀ index, index ∈ targets ↔ (index, aliasName) ∈ store.aliases.pairs := by
  refine ⟨store.aliases.targets aliasName, ?_, ?_, fun index => AliasTable.mem_pairs.symm⟩
  · rw [aliasTargets, available, hreached]
    rfl
  · rw [AliasTable.targets_eq_keys]
    exact Table.pairwise_keys _

/-- **The table of aliases is a set of pairs.** On every store, whatever its faults, a request to
change the aliases does to the pairs what its actions do one after the other, or fails and changes
nothing; deleting an index unbinds the pairs with that index; the indices of an alias are listed in
ascending order; and of two confirmed requests with the same last action about each pair one is as
good as the other. -/
theorem aliases_refine_pairs (store : Store) :
    (∀ actions, store.ChangesPairs actions (Effect.on (updateAliases actions) store).1
      (Effect.on (updateAliases actions) store).2) ∧
      (∀ index after, Effect.on (delete index) store = (.ok (), after) →
        after.aliases.pairs = {pair ∈ store.aliases.pairs | pair.1 ≠ index}) ∧
      (store.faults.unavailable = false → ∀ aliasName,
        ∃ targets, store.aliasTargets aliasName = .ok targets ∧ targets.Pairwise (· < ·) ∧
          ∀ index, index ∈ targets ↔ (index, aliasName) ∈ store.aliases.pairs) ∧
      ∀ actions actions' after after',
        Effect.on (updateAliases actions) store = (.ok true, after) →
          Effect.on (updateAliases actions') store = (.ok true, after') →
            (∀ aliasName index, AliasTable.lastAbout actions aliasName index =
              AliasTable.lastAbout actions' aliasName index) →
              after = after' := by
  refine ⟨store.changesPairs, fun index after hrun => ?_, aliasTargets_eq_pairs,
    fun actions actions' after after' hrun hrun' hlast => ?_⟩
  · rcases delete_cases index store with ⟨e, hfailed⟩ | ⟨-, hdeleted⟩
    · rw [hfailed] at hrun
      cases hrun
    · rw [hdeleted] at hrun
      cases hrun
      exact AliasTable.pairs_withoutIndex store.aliases index
  · rcases updateAliases_cases actions store with ⟨e, h⟩ | h | ⟨-, h⟩ <;> rw [h] at hrun <;>
      cases hrun
    rcases updateAliases_cases actions' store with ⟨e, h'⟩ | h' | ⟨-, h'⟩ <;> rw [h'] at hrun' <;>
      cases hrun'
    rw [AliasTable.apply_eq_of_lastAbout hlast]

/-- Actions that empty an alias, fill it again and undo a binding on the way. -/
def refilling : List AliasAction :=
  [.remove "a_0" "one", .add "b_0" "one", .remove "b_0" "one", .add "b_1" "one"]

/-- The last of these actions about each pair, in another order. -/
def settling : List AliasAction :=
  [.add "b_1" "one", .remove "b_0" "one", .remove "a_0" "one"]

theorem lastAbout_refilling (aliasName index : String) :
    AliasTable.lastAbout refilling aliasName index =
      AliasTable.lastAbout settling aliasName index := by
  simp only [refilling, settling, AliasTable.lastAbout_cons]
  by_cases ha : "a_0" = index
  · subst ha
    simp
  · by_cases hb : "b_0" = index
    · subst hb
      by_cases hone : "one" = aliasName <;> simp [AliasTable.lastAbout, hone]
    · simp [ha, hb]

theorem aliases_refine_pairs_refilled :
    Effect.on (updateAliases refilling) aliasedStore =
        Effect.on (updateAliases settling) aliasedStore ∧
      (Effect.on (updateAliases refilling) aliasedStore).1 = .ok true ∧
      (Effect.on (updateAliases refilling) aliasedStore).2.aliases.pairs =
        refilling.foldl AliasAction.onPairs aliasedStore.aliases.pairs ∧
      (∃ e, (Effect.on (updateAliases [.add "c_0" "one", .remove "c_0" "one"]) aliasedStore).1 =
        .error e) ∧
      (Effect.on (delete "b_0") aliasedStore).2.aliases.pairs =
        {pair ∈ aliasedStore.aliases.pairs | pair.1 ≠ "b_0"} := by
  have ⟨hchanges, hdelete, _, hsame⟩ := aliases_refine_pairs aliasedStore
  have hok : (Effect.on (updateAliases refilling) aliasedStore).1 = .ok true := rfl
  have hok' : (Effect.on (updateAliases settling) aliasedStore).1 = .ok true := rfl
  have hafter := hsame refilling settling _ _ (Prod.ext hok rfl) (Prod.ext hok' rfl)
    lastAbout_refilling
  exact ⟨Prod.ext (hok.trans hok'.symm) hafter, hok, (hchanges refilling).carried hok,
    (hchanges _).fails.mpr (.inr ⟨"c_0", "one", List.mem_cons_self .., rfl⟩),
    hdelete "b_0" _ (Prod.ext rfl rfl)⟩

end Store

end RollingIndex
