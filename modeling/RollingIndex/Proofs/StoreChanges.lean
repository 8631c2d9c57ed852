import RollingIndex.Store.Bulk

/-!
# What each change of a store does

Every operation on a store asks before it acts: it ends with a failure and the store as it was, or
the store is changed in one place. The equations below (`Store.on_create`, `Store.on_putMapping`,
`Store.on_delete`, `Store.on_updateAliases`, `Store.on_deleteByRange`) say which; nothing else about
the operations is used by later proofs.
-/

namespace RollingIndex

namespace Effect

variable {σ α β : Type}

/-- What is done to the value of an operation changes nothing about the state after it. -/
theorem on_bind_pure (x : Effect σ α) (f : α → β) (s : σ) :
    on (x >>= fun a => pure (f a)) s = ((on x s).1.map f, (on x s).2) := by
  rw [on_bind]
  rcases on x s with ⟨_ | _, t⟩ <;> rfl

end Effect

/-- An index without the documents whose field lies in a range. -/
def Index.purged (index : Index) (field : String) (first last : Int) : Index :=
  { index with
    documents := index.documents.filter fun _ document => !document.inRange field first last }

@[simp] theorem Index.purged_purged (index : Index) (field : String) (first last : Int) :
    (index.purged field first last).purged field first last = index.purged field first last := by
  have hdocuments : ((index.purged field first last).purged field first last).documents =
      (index.purged field first last).documents := by
    apply Table.ext_get?
    intro id
    simp [Index.purged, Option.filter_filter]
  exact congrArg (fun documents => { index with documents }) hdocuments

namespace Store

variable {store : Store} {name : String}

/-- The failure of every operation on a store that cannot be reached. -/
def unreachable : Failure := .storeUnavailable "memory store marked unreachable"

/-- Neither an index nor an alias has the name. -/
def Free (store : Store) (name : String) : Prop :=
  store.indices.get? name = none ∧ store.aliases.get? name = none

/-- The store with one more index, which takes the next place in the order of creation. -/
def withIndex (store : Store) (name : String) (settings : IndexSettings)
    (mapping : Option Json := none) : Store :=
  { store with
    indices := store.indices.insert name { settings, mapping, creationOrder := store.nextOrder }
    nextOrder := store.nextOrder + 1 }

/-- The store without an index and without the bindings to it. -/
def withoutIndex (store : Store) (name : String) : Store :=
  { store with
    indices := store.indices.erase name
    aliases := store.aliases.withoutIndex name }

theorem contains_eq_false_iff {α : Type} {t : Table α} :
    t.contains name = false ↔ t.get? name = none := by
  rw [Table.contains]
  cases t.get? name <;> simp

theorem get?_withIndex_of_ne {settings : IndexSettings} {mapping : Option Json} {other : String}
    (h : other ≠ name) :
    (store.withIndex name settings mapping).indices.get? other = store.indices.get? other :=
  (Table.get?_insert ..).trans (if_neg h)

theorem get?_withIndex_self (store : Store) (name : String) (settings : IndexSettings)
    (mapping : Option Json) :
    (store.withIndex name settings mapping).indices.get? name =
      some { settings, mapping, creationOrder := store.nextOrder } :=
  (Table.get?_insert ..).trans (if_pos rfl)

/-- An index that was added is there. -/
theorem contains_withIndex_self (store : Store) (name : String) (settings : IndexSettings)
    (mapping : Option Json) :
    (store.withIndex name settings mapping).indices.contains name = true :=
  Table.contains_eq_true_iff.mpr ⟨_, store.get?_withIndex_self name settings mapping⟩

/-- An index that is there stays when another one is added. -/
theorem contains_withIndex {settings : IndexSettings} {mapping : Option Json} {other : String}
    (h : store.indices.contains other = true) :
    (store.withIndex name settings mapping).indices.contains other = true := by
  rw [Table.contains_eq_true_iff] at h ⊢
  rw [withIndex, Table.get?_insert]
  split
  · exact ⟨_, rfl⟩
  · exact h

/-! ## Indices -/

theorem on_create (name : String) (settings : IndexSettings) (store : Store) :
    Effect.on (create name settings) store =
      if store.faults.unavailable then (.error unreachable, store)
      else if store.indices.contains name || store.aliases.contains name then
        (.error (.indexAlreadyExists name), store)
      else
        (.ok store.faults.acknowledgesCreates, store.withIndex name settings) := by
  simp only [create, Effect.on_bind, Effect.on_get, Effect.on_lift, available]
  cases store.faults.unavailable with
  | true => rfl
  | false =>
    simp only [Bool.false_eq_true, if_false, Effect.on_ite]
    split <;> rfl

/-- Creating an index fails and changes nothing, or the name was free and an index without mapping
and documents is there. -/
theorem create_cases (name : String) (settings : IndexSettings) (store : Store) :
    (∃ e, Effect.on (create name settings) store = (.error e, store)) ∨
      store.Free name ∧ store.faults.unavailable = false ∧
        Effect.on (create name settings) store =
          (.ok store.faults.acknowledgesCreates, store.withIndex name settings) := by
  rw [on_create]
  split
  · exact .inl ⟨_, rfl⟩
  · rename_i hreached
    split
    · exact .inl ⟨_, rfl⟩
    · rename_i htaken
      simp only [Bool.or_eq_true, not_or, Bool.not_eq_true, contains_eq_false_iff]
        at htaken hreached
      exact .inr ⟨htaken, hreached, rfl⟩

/-- Putting the mapping of an index just created is as good as creating it with the mapping. -/
theorem modify_withIndex (store : Store) (name : String) (settings : IndexSettings)
    (mapping : Json) :
    { store.withIndex name settings with
      indices := (store.withIndex name settings).indices.modify name fun index =>
        { index with mapping := some mapping } } =
      store.withIndex name settings (some mapping) := by
  have hindices : ((store.withIndex name settings).indices.modify name fun index =>
      { index with mapping := some mapping }) =
        (store.withIndex name settings (some mapping)).indices := by
    apply Table.ext_get?
    intro other
    by_cases hother : other = name <;> simp [withIndex, hother]
  rw [hindices]
  rfl

theorem on_putMapping (name : String) (mapping : Json) (store : Store) :
    Effect.on (putMapping name mapping) store =
      if store.faults.unavailable then (.error unreachable, store)
      else if store.indices.contains name then
        if store.faults.acknowledgesMappings then
          (.ok true, { store with
            indices := store.indices.modify name fun index =>
              { index with mapping := some mapping } })
        else (.ok false, store)
      else (.error (.indexNotFound name), store) := by
  simp only [putMapping, Effect.on_bind, Effect.on_get, Effect.on_lift, available]
  cases store.faults.unavailable with
  | true => rfl
  | false =>
    simp only [Bool.false_eq_true, if_false, Effect.on_ite]
    split
    · split <;> rfl
    · rfl

theorem on_delete (name : String) (store : Store) :
    Effect.on (delete name) store =
      if store.faults.unavailable then (.error unreachable, store)
      else if store.faults.failingDeletes.contains name then
        (.error (.storeUnavailable ("delete of <" ++ name ++ "> timed out")), store)
      else if store.indices.contains name then (.ok (), store.withoutIndex name)
      else (.error (.indexNotFound name), store) := by
  simp only [delete, Effect.on_bind, Effect.on_get, Effect.on_lift, available]
  cases store.faults.unavailable with
  | true => rfl
  | false =>
    simp only [Bool.false_eq_true, if_false, Effect.on_ite]
    split
    · rfl
    · split <;> rfl

/-- Deleting an index fails and changes nothing, or the index was there and is gone. -/
theorem delete_cases (name : String) (store : Store) :
    (∃ e, Effect.on (delete name) store = (.error e, store)) ∨
      store.indices.contains name = true ∧
        Effect.on (delete name) store = (.ok (), store.withoutIndex name) := by
  rw [on_delete]
  split
  · exact .inl ⟨_, rfl⟩
  · split
    · exact .inl ⟨_, rfl⟩
    · split
      · rename_i hexists
        exact .inr ⟨hexists, rfl⟩
      · exact .inl ⟨_, rfl⟩

/-! ## Aliases -/

theorem on_updateAliases (actions : List AliasAction) (store : Store) :
    Effect.on (updateAliases actions) store =
      if store.faults.unavailable then (.error unreachable, store)
      else
        match (actions.filterMap AliasAction.added?).find? fun index =>
          !store.indices.contains index with
        | some missing => (.error (.indexNotFound missing), store)
        | none =>
          if store.faults.acknowledgesAliases then
            (.ok true, { store with aliases := store.aliases.apply actions })
          else (.ok false, store) := by
  simp only [updateAliases, Effect.on_bind, Effect.on_get, Effect.on_lift, available]
  cases store.faults.unavailable with
  | true => rfl
  | false =>
    simp only [Bool.false_eq_true, if_false]
    cases (actions.filterMap AliasAction.added?).find? fun index =>
        !store.indices.contains index with
    | some missing => rfl
    | none =>
      simp only [Effect.on_ite]
      split <;> rfl

/-- A change of the aliases leaves the store as it is, or every index that it binds to exists and
all of it is applied. -/
theorem updateAliases_cases (actions : List AliasAction) (store : Store) :
    (∃ e, Effect.on (updateAliases actions) store = (.error e, store)) ∨
      Effect.on (updateAliases actions) store = (.ok false, store) ∨
        (∀ index aliasName, .add index aliasName ∈ actions → store.indices.contains index = true) ∧
          Effect.on (updateAliases actions) store =
            (.ok true, { store with aliases := store.aliases.apply actions }) := by
  rw [on_updateAliases]
  split
  · exact .inl ⟨_, rfl⟩
  · split
    · exact .inl ⟨_, rfl⟩
    · rename_i hfound
      split
      · refine .inr (.inr ⟨fun index aliasName hadd => ?_, rfl⟩)
        have hexists := List.find?_eq_none.mp hfound index
          (List.mem_filterMap.mpr ⟨_, hadd, rfl⟩)
        simpa using hexists
      · exact .inr (.inl rfl)

/-! ## Deleting documents by the value of a field -/

theorem purgeIndex_snd (field : String) (first last : Int) (state : Nat × Table Index)
    (target name : String) :
    (purgeIndex field first last state target).2.get? name =
      (state.2.get? name).map fun index =>
        if name = target then index.purged field first last else index := by
  obtain ⟨removed, indices⟩ := state
  rw [purgeIndex]
  cases hindex : indices.get? target with
  | none =>
    by_cases hname : name = target
    · subst hname
      simp [hindex]
    · simp [hname]
  | some index =>
    by_cases hname : name = target
    · subst hname
      simp [hindex, Index.purged]
    · simp [hname]

/-- The indices after the named ones were purged. -/
def afterPurge (store : Store) (names : List String) (field : String) (first last : Int) :
    Table Index :=
  (names.foldl (purgeIndex field first last) (0, store.indices)).2

/-- The documents of the range are gone from every index named, however often it is named, and all
other indices are as before. -/
theorem get?_afterPurge (store : Store) (names : List String) (field : String) (first last : Int)
    (name : String) :
    (store.afterPurge names field first last).get? name =
      (store.indices.get? name).map fun index =>
        if name ∈ names then index.purged field first last else index := by
  -- the fold goes on from the indices purged so far, so the state is general
  have hfold : ∀ (names : List String) (state : Nat × Table Index),
      (names.foldl (purgeIndex field first last) state).2.get? name =
        (state.2.get? name).map fun index =>
          if name ∈ names then index.purged field first last else index := by
    intro names
    induction names with
    | nil => simp
    | cons target names ih =>
      intro state
      rw [List.foldl_cons, ih, purgeIndex_snd, Option.map_map]
      congr 1
      funext index
      by_cases htarget : name = target <;> by_cases hrest : name ∈ names <;>
        simp [htarget, hrest]
  exact hfold names (0, store.indices)

/-- The documents of the range are no longer seen in the indices named. -/
theorem document?_afterPurge (store : Store) (names : List String) (field : String)
    (first last : Int) (name id : String) :
    { store with indices := store.afterPurge names field first last }.document? name id =
      (store.document? name id).filter fun document =>
        !(names.contains name && document.inRange field first last) := by
  rw [document?, get?_afterPurge, document?]
  cases store.indices.get? name with
  | none => rfl
  | some index =>
    have htrue : ∀ found : Option Document, found.filter (fun _ => true) = found := by
      intro found
      cases found <;> rfl
    by_cases hname : name ∈ names
    · simp [hname, Index.visible, Index.purged, Option.filter_filter, Bool.and_comm]
    · simp [hname, htrue]

theorem on_deleteByRange (names : List String) (field : String) (first last : Int)
    (store : Store) :
    Effect.on (deleteByRange names field first last) store =
      if store.faults.unavailable then (.error unreachable, store)
      else
        match names.find? fun name => !store.indices.contains name with
        | some missing => (.error (.indexNotFound missing), store)
        | none =>
          (.ok (names.foldl (purgeIndex field first last) (0, store.indices)).1,
            { store with indices := store.afterPurge names field first last }) := by
  simp only [deleteByRange, Effect.on_bind, Effect.on_get, Effect.on_lift, available]
  cases store.faults.unavailable with
  | true => rfl
  | false =>
    simp only [Bool.false_eq_true, if_false]
    cases names.find? fun name => !store.indices.contains name <;> rfl

/-- Deleting by range fails and changes nothing, or the documents of the range are gone. -/
theorem deleteByRange_cases (names : List String) (field : String) (first last : Int)
    (store : Store) :
    (∃ e, Effect.on (deleteByRange names field first last) store = (.error e, store)) ∨
      ∃ removed, Effect.on (deleteByRange names field first last) store =
        (.ok removed, { store with indices := store.afterPurge names field first last }) := by
  rw [on_deleteByRange]
  split
  · exact .inl ⟨_, rfl⟩
  · split
    · exact .inl ⟨_, rfl⟩
    · exact .inr ⟨_, rfl⟩

end Store

end RollingIndex
