import RollingIndex.Store.AliasTable

/-!
# The table of aliases as a relation

A table of aliases says which aliases are bound to which indices, and this relation is all that
matters: an alias bound to nothing is not in the table. Each change of a table is described by the
pairs that are bound after it:

* **one action adds or removes its own pair** (`AliasTable.mem_targets_act`) and dropping the
  aliases bound to nothing changes no pair (`AliasTable.targets_prune`), so of a list of actions
  the last about a pair decides (`AliasTable.mem_targets_apply_iff`);
* **unbinding an index removes the pairs with that index** (`AliasTable.mem_targets_withoutIndex`);
* **moving an alias leaves it bound to the new index only** (`AliasTable.targets_move`).
-/

namespace RollingIndex

namespace NameSet

variable {s t : NameSet} {name key : String}

theorem mem_keys : key ∈ s.keys ↔ s.get? key = some () := by
  rw [Table.mem_keys_iff]
  exact ⟨fun ⟨_, h⟩ => h, fun h => ⟨(), h⟩⟩

theorem mem_keys_add : key ∈ (s.add name).keys ↔ key = name ∨ key ∈ s.keys := by
  by_cases h : key = name <;> simp [add, h]

theorem mem_keys_erase : key ∈ (Table.erase s name).keys ↔ key ≠ name ∧ key ∈ s.keys := by
  by_cases h : key = name <;> simp [h]

/-- Sets with the same members are equal. -/
theorem ext_keys (h : ∀ key, key ∈ s.keys ↔ key ∈ t.keys) : s = t := by
  apply Table.ext_get?
  intro key
  have hkey := h key
  rw [mem_keys, mem_keys] at hkey
  cases hs : s.get? key with
  | none =>
    cases ht : t.get? key with
    | none => rfl
    | some _ => exact absurd (hkey.mpr ht) (by simp [hs])
  | some _ => exact (hkey.mp hs).symm

theorem keys_eq_singleton_iff : s.keys = [name] ↔ ∀ key, key ∈ s.keys ↔ key = name := by
  constructor
  · intro h key
    rw [h, List.mem_singleton]
  · intro h
    have hs : s = NameSet.add ∅ name := ext_keys fun key => by
      rw [h, mem_keys_add]
      simp
    rw [hs]
    rfl

theorem isEmpty_iff : Table.isEmpty s = true ↔ s.keys = [] := by
  simp [Table.isEmpty, Table.keys]

end NameSet

namespace AliasTable

variable {aliases : AliasTable} {a b i j : String}

theorem mem_targets :
    i ∈ aliases.targets a ↔ ∃ bound, aliases.get? a = some bound ∧ i ∈ bound.keys := by
  rw [targets]
  cases aliases.get? a <;> simp

theorem targets_eq_keys (aliases : AliasTable) (a : String) :
    aliases.targets a = ((aliases.get? a).getD ∅).keys := by
  rw [targets]
  cases aliases.get? a <;> rfl

/-- What an alias is bound to is determined by its members. -/
theorem targets_ext {aliases aliases' : AliasTable}
    (h : ∀ i, i ∈ aliases.targets a ↔ i ∈ aliases'.targets b) :
    aliases.targets a = aliases'.targets b := by
  simp only [targets_eq_keys] at h ⊢
  exact congrArg Table.keys (NameSet.ext_keys h)

theorem targets_eq_singleton_iff :
    aliases.targets a = [j] ↔ ∀ i, i ∈ aliases.targets a ↔ i = j := by
  rw [targets_eq_keys]
  exact NameSet.keys_eq_singleton_iff

/-! ## Changes -/

theorem get?_prune (aliases : AliasTable) (a : String) :
    (prune aliases).get? a = (aliases.get? a).filter fun bound => !bound.isEmpty :=
  Table.get?_filter ..

/-- Dropping the aliases bound to nothing changes no binding. -/
@[simp] theorem targets_prune (aliases : AliasTable) (a : String) :
    (prune aliases).targets a = aliases.targets a := by
  rw [targets, targets, get?_prune]
  cases aliases.get? a with
  | none => rfl
  | some bound =>
    by_cases hempty : Table.isEmpty bound = true
    · simp [hempty, Option.filter, NameSet.isEmpty_iff.mp hempty]
    · simp [hempty, Option.filter]

/-- An alias that is in a table without aliases bound to nothing is bound to something. -/
theorem keys_ne_nil_of_get?_prune {bound : NameSet} (h : (prune aliases).get? a = some bound) :
    bound.keys ≠ [] := by
  rw [get?_prune, Option.filter_eq_some_iff] at h
  obtain ⟨-, hempty⟩ := h
  intro hkeys
  rw [NameSet.isEmpty_iff.mpr hkeys] at hempty
  cases hempty

/-- In tables without aliases bound to nothing, an alias stands for the same set of indices if it is
bound to the same indices. -/
theorem get?_eq_of_targets {aliases aliases' : AliasTable}
    (hbound : ∀ {bound : NameSet}, aliases.get? a = some bound → bound.keys ≠ [])
    (hbound' : ∀ {bound : NameSet}, aliases'.get? a = some bound → bound.keys ≠ [])
    (h : aliases.targets a = aliases'.targets a) : aliases.get? a = aliases'.get? a := by
  rw [targets, targets] at h
  cases hget : aliases.get? a with
  | none =>
    cases hget' : aliases'.get? a with
    | none => rfl
    | some bound' =>
      rw [hget, hget'] at h
      exact absurd h.symm (hbound' hget')
  | some bound =>
    cases hget' : aliases'.get? a with
    | none =>
      rw [hget, hget'] at h
      exact absurd h (hbound hget)
    | some bound' =>
      rw [hget, hget'] at h
      have hkeys : bound.keys = bound'.keys := h
      exact congrArg some (NameSet.ext_keys fun key => by rw [hkeys])

/-- An alias that is bound to something is in the table. -/
theorem contains_of_mem_targets (h : i ∈ aliases.targets a) : aliases.contains a = true := by
  obtain ⟨bound, hbound, -⟩ := mem_targets.mp h
  exact Table.contains_eq_true_iff.mpr ⟨bound, hbound⟩

/-- Where the aliases bound to nothing were dropped, an alias that is in the table is bound to
something. -/
theorem exists_mem_of_contains_prune (h : (prune aliases).contains a = true) :
    ∃ i, i ∈ aliases.targets a := by
  obtain ⟨bound, hbound⟩ := Table.contains_eq_true_iff.mp h
  obtain ⟨i, hi⟩ := List.exists_mem_of_ne_nil _ (keys_ne_nil_of_get?_prune hbound)
  refine ⟨i, ?_⟩
  rw [← targets_prune]
  exact mem_targets.mpr ⟨bound, hbound, hi⟩

/-- One action adds or removes its own pair. -/
theorem mem_targets_act {action : AliasAction} :
    i ∈ (act aliases action).targets a ↔
      action = .add i a ∨ (action ≠ .remove i a ∧ i ∈ aliases.targets a) := by
  cases action with
  | add index aliasName =>
    rw [targets_eq_keys, act, Table.get?_insert]
    by_cases ha : a = aliasName
    · subst ha
      rw [if_pos rfl, Option.getD_some, NameSet.mem_keys_add, ← targets_eq_keys]
      simp [eq_comm]
    · rw [if_neg ha, ← targets_eq_keys]
      simp [Ne.symm ha]
  | remove index aliasName =>
    rw [targets_eq_keys, act, Table.get?_modify]
    by_cases ha : a = aliasName
    · subst ha
      rw [if_pos rfl, targets_eq_keys]
      cases aliases.get? a with
      | none => simp [Table.keys, EmptyCollection.emptyCollection, Table.empty]
      | some bound =>
        rw [Option.map_some, Option.getD_some, Option.getD_some, NameSet.mem_keys_erase]
        simp [eq_comm]
    · rw [if_neg ha, ← targets_eq_keys]
      simp [Ne.symm ha]

/-- What is bound after a list of actions was added by one of them or was bound before. -/
theorem mem_targets_apply_imp {actions : List AliasAction}
    (h : i ∈ (apply aliases actions).targets a) :
    .add i a ∈ actions ∨ i ∈ aliases.targets a := by
  rw [apply, targets_prune] at h
  induction actions generalizing aliases with
  | nil => exact .inr h
  | cons action actions ih =>
    rcases ih h with hadd | hbound
    · exact .inl (List.mem_cons_of_mem _ hadd)
    · rcases mem_targets_act.mp hbound with rfl | ⟨-, hbound⟩
      · exact .inl (List.mem_cons_self ..)
      · exact .inr hbound

/-- Actions on other aliases change nothing about an alias. -/
theorem targets_apply_of_forall {actions : List AliasAction}
    (h : ∀ i, .add i a ∉ actions ∧ .remove i a ∉ actions) :
    (apply aliases actions).targets a = aliases.targets a := by
  rw [apply, targets_prune]
  induction actions generalizing aliases with
  | nil => rfl
  | cons action actions ih =>
    have hrest : ∀ i, .add i a ∉ actions ∧ .remove i a ∉ actions := fun i =>
      ⟨fun hi => (h i).1 (List.mem_cons_of_mem _ hi), fun hi => (h i).2 (List.mem_cons_of_mem _ hi)⟩
    rw [List.foldl_cons, ih hrest]
    refine targets_ext fun i => ?_
    have hadd : action ≠ .add i a := fun heq => (h i).1 (heq ▸ List.mem_cons_self ..)
    have hremove : action ≠ .remove i a := fun heq => (h i).2 (heq ▸ List.mem_cons_self ..)
    rw [mem_targets_act]
    simp [hadd, hremove]

/-- The last action of a list about an alias and an index. -/
def lastAbout (actions : List AliasAction) (aliasName index : String) : Option AliasAction :=
  actions.reverse.find? fun action =>
    action = .add index aliasName ∨ action = .remove index aliasName

theorem lastAbout_cons (action : AliasAction) (actions : List AliasAction)
    (aliasName index : String) :
    lastAbout (action :: actions) aliasName index =
      (lastAbout actions aliasName index).or
        (if action = .add index aliasName ∨ action = .remove index aliasName then some action
        else none) := by
  rw [lastAbout, List.reverse_cons, List.find?_append, ← lastAbout]
  by_cases habout : action = .add index aliasName ∨ action = .remove index aliasName <;>
    simp [habout]

/-- **The last action about a pair decides whether it is bound**; without one it is bound if it was
bound before. -/
theorem mem_targets_apply_iff {actions : List AliasAction} :
    i ∈ (apply aliases actions).targets a ↔
      lastAbout actions a i = some (.add i a) ∨
        lastAbout actions a i = none ∧ i ∈ aliases.targets a := by
  rw [apply, targets_prune]
  induction actions generalizing aliases with
  | nil => simp [lastAbout]
  | cons action actions ih =>
    rw [List.foldl_cons, ih, lastAbout_cons, mem_targets_act]
    cases hlast : lastAbout actions a i with
    | some last => simp
    | none =>
      -- no later action is about the pair, so this one decides
      by_cases hadd : action = .add i a
      · simp [hadd]
      · by_cases hremove : action = .remove i a
        · simp [hremove]
        · simp [hadd, hremove]

/-- **An alias moved from the one index it was bound to is bound to the new one only.** -/
theorem targets_move {old new : String} (h : aliases.targets a = [old]) :
    (apply aliases [.remove old a, .add new a]).targets a = [new] := by
  refine targets_eq_singleton_iff.mpr fun i => ?_
  rw [apply, targets_prune, List.foldl_cons, List.foldl_cons, List.foldl_nil, mem_targets_act,
    mem_targets_act, h]
  simp [eq_comm]

/-- An alias that was not bound is bound to the new index only. -/
theorem targets_bind {new : String} (h : aliases.targets a = []) :
    (apply aliases [.add new a]).targets a = [new] := by
  refine targets_eq_singleton_iff.mpr fun i => ?_
  rw [apply, targets_prune, List.foldl_cons, List.foldl_nil, mem_targets_act, h]
  simp [eq_comm]

/-- Unbinding an index removes its pairs. -/
theorem mem_targets_withoutIndex :
    i ∈ (withoutIndex aliases j).targets a ↔ i ≠ j ∧ i ∈ aliases.targets a := by
  rw [withoutIndex, targets_prune, targets_eq_keys, Table.get?_map, targets_eq_keys]
  cases aliases.get? a with
  | none => simp [Table.keys, EmptyCollection.emptyCollection, Table.empty]
  | some bound =>
    rw [Option.map_some, Option.getD_some, Option.getD_some, NameSet.mem_keys_erase]

end AliasTable

end RollingIndex
