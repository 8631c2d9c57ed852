import Mathlib.Algebra.Group.Int.Defs
import RollingIndex.Proofs.StoredDocuments

/-!
# What a purge deletes

A purge deletes by range from the rotated indices of a deployment. It goes through the indices named
one after the other and counts what it takes out of each:

* **what a deletion by range takes out and what it leaves add up to what was there**
  (`Store.removedBy_add`), so of the names only the set matters, neither their order nor how often
  each stands in the list (`Store.on_deleteByRange_congr`);
* **the number answered is that of the places where a document of the range was seen**
  (`Store.Live.removedBy_eq_length`), however the indices are named;
* **a purge deletes exactly the documents of its range from exactly the indices listed**
  (`Deployment.purge_exact`).
-/

namespace RollingIndex

/-! ## Sums over tables that change -/

namespace Table

variable {α β : Type}

/-- The total of a table after the value of one name was replaced. -/
theorem total_insert_add {t : Table α} {key : String} {old : α} (h : t.get? key = some old)
    (value : α) (measure : α → Nat) :
    (t.insert key value).total measure + measure old = t.total measure + measure value := by
  have hothers : (t.insert key value).erase key = t.erase key := by
    apply ext_get?
    intro other
    by_cases hother : other = key <;> simp [hother]
  have hinserted : (t.insert key value).get? key = some value := by
    rw [get?_insert, if_pos rfl]
  have hnew := total_erase_add hinserted measure
  have hold := total_erase_add h measure
  rw [hothers] at hnew
  omega

/-- The total of a table is that of the entries that pass a test and that of those that do not. -/
theorem total_filter_add (t : Table α) (keep : String → α → Bool) (measure : α → Nat) :
    (t.filter keep).total measure + (t.filter fun name value => !keep name value).total measure =
      t.total measure := by
  have hperm := (List.filter_append_perm (fun entry : String × α => keep entry.1 entry.2)
    t.entries).map fun entry => measure entry.2
  have hsum := hperm.sum_nat
  rw [List.map_append, List.sum_append] at hsum
  simp only [total_eq_sum, values, List.map_map]
  exact hsum

/-- A total over changed values is a total over the values themselves. -/
theorem total_map_eq {t : Table α} {f : String → α → β} {measure : β → Nat} {measure' : α → Nat}
    (h : ∀ {name value}, t.get? name = some value → measure (f name value) = measure' value) :
    (t.map f).total measure = t.total measure' := by
  rw [total_eq_sum, total_eq_sum, values, values, map, List.map_map, List.map_map, List.map_map]
  exact congrArg List.sum
    (List.map_congr_left fun entry hentry => h (get?_eq_some_iff.mpr hentry))

@[simp] theorem keys_map (t : Table α) (f : String → α → β) : (t.map f).keys = t.keys := by
  simp [keys, map]

/-- Tables that know the same names list them alike. -/
theorem keys_ext {t : Table α} {s : Table β} (h : ∀ name, t.contains name = s.contains name) :
    t.keys = s.keys := by
  have hnames : t.map (fun _ _ => ()) = s.map (fun _ _ => ()) := by
    apply ext_get?
    intro name
    have hname := h name
    rw [contains, contains] at hname
    rw [get?_map, get?_map]
    cases ht : t.get? name <;> cases hs : s.get? name <;> simp [ht, hs] at hname ⊢
  rw [← keys_map t fun _ _ => (), hnames, keys_map]

end Table

/-! ## The time of a document -/

/-- The document is an object whose time is an integer that fits 64 bits with a sign and lies
between zero and a bound. -/
def Document.CreatedUpTo (upTo : Int) (document : Document) : Prop :=
  ∃ fields n, document.source = .object fields ∧
    Table.lookup createdAtField fields = some (.int n) ∧
      -2 ^ 63 ≤ n ∧ n < 2 ^ 63 ∧ 0 ≤ n ∧ n ≤ upTo

theorem fitsSigned64_iff {n : Int} : fitsSigned64 n = true ↔ -2 ^ 63 ≤ n ∧ n < 2 ^ 63 := by
  have hpower : powerOfTwo 63 = 2 ^ 63 := rfl
  cases n with
  | ofNat n =>
    rw [fitsSigned64, fitsBits_iff, hpower]
    show n < 2 ^ 63 ↔ -2 ^ 63 ≤ (n : Int) ∧ (n : Int) < 2 ^ 63
    omega
  | negSucc n =>
    rw [fitsSigned64, fitsBits_iff, hpower, Int.negSucc_eq]
    omega

theorem Json.int64?_eq_some_iff {value : Json} {n : Int} :
    value.int64? = some n ↔ value = .int n ∧ -2 ^ 63 ≤ n ∧ n < 2 ^ 63 := by
  rw [← fitsSigned64_iff]
  cases value with
  | int m =>
    rw [int64?, Option.ite_none_right_eq_some, Option.some.injEq, Json.int.injEq]
    constructor
    · rintro ⟨hfits, rfl⟩
      exact ⟨rfl, hfits⟩
    · rintro ⟨rfl, hfits⟩
      exact ⟨hfits, rfl⟩
  | _ => simp [int64?]

/-- The range of a purge holds the documents with such a time. -/
theorem Document.inRange_iff {upTo : Int} {document : Document} :
    document.inRange createdAtField 0 upTo = true ↔ document.CreatedUpTo upTo := by
  have htime : ∀ n, (document.source.field? createdAtField).bind Json.int64? = some n ↔
      ∃ fields, document.source = .object fields ∧
        Table.lookup createdAtField fields = some (.int n) ∧ -2 ^ 63 ≤ n ∧ n < 2 ^ 63 := by
    intro n
    rw [Option.bind_eq_some_iff]
    cases document.source with
    | object fields => simp [Json.field?, Json.int64?_eq_some_iff]
    | _ => simp [Json.field?]
  rw [inRange]
  constructor
  · intro h
    split at h
    · rename_i n hn
      obtain ⟨fields, hsource, hfield, hlow, hhigh⟩ := (htime n).mp hn
      rw [Bool.and_eq_true, decide_eq_true_eq, decide_eq_true_eq] at h
      exact ⟨fields, n, hsource, hfield, hlow, hhigh, h⟩
    · cases h
  · rintro ⟨fields, n, hsource, hfield, hlow, hhigh, h⟩
    rw [(htime n).mpr ⟨fields, hsource, hfield, hlow, hhigh⟩]
    simpa using h

namespace Store

variable {store : Store} {names names' : List String} {field : String} {first last : Int}
  {name id : String}

/-! ## Deleting by range -/

/-- The number of documents taken out of the named indices, counted from one to the next. -/
def removedBy (store : Store) (names : List String) (field : String) (first last : Int) : Nat :=
  (names.foldl (purgeIndex field first last) (0, store.indices)).1

/-- What is taken out of one index and what is left add up to what there was. -/
theorem purgeIndex_add (state : Nat × Table Index) (name : String) :
    (purgeIndex field first last state name).1 +
        documentTotal (purgeIndex field first last state name).2 =
      state.1 + documentTotal state.2 := by
  obtain ⟨removed, indices⟩ := state
  rw [purgeIndex]
  cases hindex : indices.get? name with
  | none => rfl
  | some index =>
    dsimp only
    have htotal := Table.total_insert_add hindex (index.purged field first last)
      (·.documents.size)
    have hle : (index.documents.filter fun _ document =>
        !document.inRange field first last).size ≤ index.documents.size :=
      List.length_filter_le ..
    rw [Index.purged] at htotal
    simp only [documentTotal] at htotal ⊢
    omega

/-- **What a deletion by range takes out and what it leaves add up to what there was**, also if an
index is named several times. -/
theorem removedBy_add (store : Store) (names : List String) (field : String) (first last : Int) :
    store.removedBy names field first last +
        documentTotal (store.afterPurge names field first last) =
      documentTotal store.indices := by
  have hfold : ∀ (names : List String) (state : Nat × Table Index),
      (names.foldl (purgeIndex field first last) state).1 +
          documentTotal (names.foldl (purgeIndex field first last) state).2 =
        state.1 + documentTotal state.2 := by
    intro names
    induction names with
    | nil => exact fun _ => rfl
    | cons name names ih =>
      intro state
      rw [List.foldl_cons, ih, purgeIndex_add]
  have hsum := hfold names (0, store.indices)
  rwa [Nat.zero_add] at hsum

/-- Of the names only the set matters for what is left. -/
theorem afterPurge_congr (h : ∀ name, name ∈ names ↔ name ∈ names') :
    store.afterPurge names field first last = store.afterPurge names' field first last := by
  apply Table.ext_get?
  intro name
  simp only [get?_afterPurge, h]

/-- Of the names only the set matters for the number taken out. -/
theorem removedBy_congr (h : ∀ name, name ∈ names ↔ name ∈ names') :
    store.removedBy names field first last = store.removedBy names' field first last := by
  have hsum := store.removedBy_add names field first last
  have hsum' := store.removedBy_add names' field first last
  rw [afterPurge_congr h] at hsum
  omega

/-- To delete the same again changes nothing. -/
theorem afterPurge_afterPurge (store : Store) (names : List String) (field : String)
    (first last : Int) :
    { store with indices := store.afterPurge names field first last }.afterPurge names field first
        last = store.afterPurge names field first last := by
  apply Table.ext_get?
  intro name
  simp only [get?_afterPurge, Option.map_map]
  congr 1
  funext index
  by_cases hname : name ∈ names <;> simp [hname]

theorem removedBy_afterPurge (store : Store) (names : List String) (field : String)
    (first last : Int) :
    { store with indices := store.afterPurge names field first last }.removedBy names field first
        last = 0 := by
  have hsum := removedBy_add { store with indices := store.afterPurge names field first last }
    names field first last
  rw [afterPurge_afterPurge] at hsum
  exact Nat.add_eq_right.mp hsum

/-- What a deletion by range comes to where the store can be reached and all indices exist. -/
theorem on_deleteByRange_of_exist (hreached : store.faults.unavailable = false)
    (hexist : ∀ name ∈ names, store.indices.contains name = true) :
    Effect.on (deleteByRange names field first last) store =
      (.ok (store.removedBy names field first last),
        { store with indices := store.afterPurge names field first last }) := by
  have hfound : (names.find? fun name => !store.indices.contains name) = none :=
    List.find?_eq_none.mpr fun name hname => by simp [hexist name hname]
  rw [on_deleteByRange, hreached, hfound]
  rfl

/-- **A deletion by range depends on the set of indices named only**, not on their order nor on how
often each is named. -/
theorem on_deleteByRange_congr (hexist : ∀ name ∈ names, store.indices.contains name = true)
    (h : ∀ name, name ∈ names ↔ name ∈ names') :
    Effect.on (deleteByRange names field first last) store =
      Effect.on (deleteByRange names' field first last) store := by
  cases hunavailable : store.faults.unavailable with
  | true =>
    rw [on_deleteByRange, on_deleteByRange, hunavailable]
    rfl
  | false =>
    rw [on_deleteByRange_of_exist hunavailable hexist,
      on_deleteByRange_of_exist hunavailable fun name hname => hexist name ((h name).mpr hname),
      removedBy_congr h, afterPurge_congr h]

/-- The number of documents taken out is the number of places where one was seen. -/
theorem Live.removedBy_eq_length (h : store.Live) (names : List String) (field : String)
    (first last : Int) :
    ∃ lost : List (String × String), lost.Nodup ∧
      (∀ name id, (name, id) ∈ lost ↔ name ∈ names ∧ ∃ document,
        store.document? name id = some document ∧ document.inRange field first last = true) ∧
        store.removedBy names field first last = lost.length := by
  have hafter := h.afterPurge names field first last
  have hplaces : ∀ name id, (name, id) ∈ places (store.afterPurge names field first last) ↔
      ∃ document, store.document? name id = some document ∧
        (name ∈ names → document.inRange field first last = false) := by
    intro name id
    rw [hafter.mem_places_iff]
    simp [document?_afterPurge, Option.filter_eq_some_iff, imp_iff_not_or]
  obtain ⟨lost, hnodup, hlost, hlength⟩ :=
    @exists_lost store.indices (store.afterPurge names field first last)
      fun ⟨name, id⟩ hplace => by
        obtain ⟨document, hdocument, -⟩ := (hplaces name id).mp hplace
        exact h.mem_places_iff.mpr ⟨document, hdocument⟩
  refine ⟨lost, hnodup, fun name id => ?_, ?_⟩
  · rw [hlost, h.mem_places_iff, hplaces]
    cases store.document? name id <;> simp
  · have hsum := store.removedBy_add names field first last
    omega

end Store

/-! ## Listings -/

namespace Naming

variable {naming : Naming} {store : Store} {names : List String} {name : String}

/-- Whether an index of that name is listed as rotated, if there is one. -/
def lists (naming : Naming) (name : String) : Bool :=
  (Pattern.ofText naming.rotatedPattern).selects name && naming.isRotated name

/-- The indices that are listed as rotated. -/
def listed (naming : Naming) (indices : Table Index) : Table Index :=
  indices.filter fun name _ => naming.lists name

theorem rotatedIndices_eq_listed (naming : Naming) (hreached : store.faults.unavailable = false) :
    naming.rotatedIndices store = .ok ((naming.listed store.indices).map Index.stats) := by
  rw [naming.rotatedIndices_eq hreached]
  refine congrArg Except.ok (Table.ext_get? fun name => ?_)
  rw [Table.get?_filter, get?_rotatedOf, Table.get?_map, listed, Table.get?_filter, lists]
  cases store.indices.get? name <;>
    cases (Pattern.ofText naming.rotatedPattern).selects name <;>
      cases naming.isRotated name <;> rfl

theorem rotatedNames_eq_listed (naming : Naming) (hreached : store.faults.unavailable = false) :
    naming.rotatedNames store = .ok (naming.listed store.indices).keys :=
  rotatedNames_eq_ok_iff.mpr
    ⟨_, naming.rotatedIndices_eq_listed hreached, (Table.keys_map ..).symm⟩

theorem keys_listed (hnames : naming.rotatedNames store = .ok names) :
    names = (naming.listed store.indices).keys := by
  rw [naming.rotatedNames_eq_listed (reached_of_rotatedNames hnames)] at hnames
  cases hnames
  rfl

theorem lists_of_mem (hnames : naming.rotatedNames store = .ok names) (hname : name ∈ names) :
    naming.lists name = true := by
  rw [keys_listed hnames, Table.mem_keys_iff, listed, Table.get?_filter] at hname
  obtain ⟨index, hindex⟩ := hname
  exact (Option.filter_eq_some_iff.mp hindex).2

/-- Purging leaves the same indices listed. -/
theorem keys_listed_afterPurge (naming : Naming) (store : Store) (names : List String)
    (field : String) (first last : Int) :
    (naming.listed (store.afterPurge names field first last)).keys =
      (naming.listed store.indices).keys := by
  refine Table.keys_ext fun name => ?_
  rw [Table.contains, Table.contains, listed, listed, Table.get?_filter, Table.get?_filter,
    Store.get?_afterPurge]
  cases store.indices.get? name <;> cases naming.lists name <;> rfl

/-- Statistics of the listed indices count the documents stored in them. -/
theorem total_listed (naming : Naming) (hlive : store.Live) :
    ((naming.listed store.indices).map Index.stats).total (·.primaryDocs) =
      Store.documentTotal (naming.listed store.indices) := by
  refine Table.total_map_eq fun {name index} hindex => ?_
  rw [listed, Table.get?_filter, Option.filter_eq_some_iff] at hindex
  exact congrArg Table.size (hlive.visible_eq hindex.1)

/-- All that a purge takes out is taken out of the indices listed. -/
theorem documentTotal_listed (hnames : naming.rotatedNames store = .ok names) (field : String)
    (first last : Int) :
    Store.documentTotal (naming.listed store.indices) =
      Store.documentTotal (naming.listed (store.afterPurge names field first last)) +
        store.removedBy names field first last := by
  have hothers : (store.afterPurge names field first last).filter (fun name _ =>
      !naming.lists name) = store.indices.filter fun name _ => !naming.lists name := by
    apply Table.ext_get?
    intro name
    rw [Table.get?_filter, Store.get?_afterPurge, Table.get?_filter]
    cases hlists : naming.lists name with
    | true => cases store.indices.get? name <;> rfl
    | false =>
      have hname : name ∉ names := fun hname => by
        rw [lists_of_mem hnames hname] at hlists
        cases hlists
      cases store.indices.get? name <;> simp [hname]
  have hbefore := Table.total_filter_add store.indices (fun name _ => naming.lists name)
    (·.documents.size)
  have hafter := Table.total_filter_add (store.afterPurge names field first last)
    (fun name _ => naming.lists name) (·.documents.size)
  have hsum := store.removedBy_add names field first last
  rw [hothers] at hafter
  simp only [Store.documentTotal, listed] at hsum ⊢
  omega

end Naming

/-! ## Purges -/

namespace Deployment

variable {d : Deployment} {desk : Desk} {names : List String}

/-- What a purge comes to where the indices are listed. -/
theorem on_purge (hnames : d.naming.rotatedNames desk.store = .ok names) (upTo : Int) :
    ∃ lines, Effect.on (d.purge upTo) desk =
      (.ok (desk.store.removedBy names createdAtField 0 upTo),
        { desk with
          store := { desk.store with
            indices := desk.store.afterPurge names createdAtField 0 upTo }
          log := desk.log ++ lines }) := by
  have hdelete : Effect.on (Store.deleteByRange names createdAtField 0 upTo) desk.store = _ :=
    Store.on_deleteByRange_of_exist (Naming.reached_of_rotatedNames hnames)
      fun name hname => (Naming.of_mem_rotatedNames hnames hname).2
  simp only [purge, Effect.on_bind, Action.on_ask, hnames]
  cases names with
  | nil =>
    refine ⟨[], ?_⟩
    rw [List.append_nil]
    rfl
  | cons name names =>
    simp only [List.isEmpty_cons, Bool.false_eq_true, if_false, Effect.on_bind,
      Action.on_onStore, hdelete, Action.on_log, Effect.on_pure]
    exact ⟨_, rfl⟩

/-- What a purge has done that was answered with a number. -/
structure Purged (d : Deployment) (upTo : Int) (names : List String) (removed : Nat)
    (store after : Store) : Prop where
  /-- these are the indices that the deployment lists -/
  listed : d.naming.rotatedNames store = .ok names
  /-- whatever is stored is seen, before and after -/
  seen : ∀ {index : String} {found : Index},
    store.indices.get? index = some found ∨ after.indices.get? index = some found →
      found.visible = found.documents
  /-- a document is gone if it was created up to the time and lay in one of these -/
  gone : ∀ {index id : String} {document : Document},
    store.document? index id = some document →
      (after.document? index id = none ↔ index ∈ names ∧ document.CreatedUpTo upTo)
  /-- every other document is still there, and there is no new one -/
  kept : ∀ {index id : String} {document : Document},
    after.document? index id = some document → store.document? index id = some document
  /-- the number is that of the documents that are gone -/
  count : ∃ places : List (String × String), places.Nodup ∧
    (∀ index id, (index, id) ∈ places ↔ index ∈ names ∧
      ∃ document, store.document? index id = some document ∧ document.CreatedUpTo upTo) ∧
      removed = places.length
  /-- it is what the summed statistics of these indices have lost -/
  decrease : ∃ before now, d.naming.rotatedIndices store = .ok before ∧
    d.naming.rotatedIndices after = .ok now ∧ before.keys = names ∧ now.keys = names ∧
      before.total (·.primaryDocs) = now.total (·.primaryDocs) + removed
  /-- indices keep everything but documents; none comes or goes -/
  indices : ∀ index, ∃ documents, after.indices.get? index =
    (store.indices.get? index).map fun found => { found with documents }
  /-- an index that is not listed is as it was -/
  others : ∀ {index : String}, index ∉ names →
    after.indices.get? index = store.indices.get? index
  /-- so is the recent index -/
  recent : after.indices.get? d.naming.recentIndex = store.indices.get? d.naming.recentIndex
  /-- nothing else of the store has changed -/
  rest : after.aliases = store.aliases ∧ after.nextOrder = store.nextOrder ∧
    after.nodes = store.nodes ∧ after.trace = store.trace ∧ after.faults = store.faults

theorem purged {store : Store} (hlive : store.Live)
    (hnames : d.naming.rotatedNames store = .ok names) (upTo : Int) :
    d.Purged upTo names (store.removedBy names createdAtField 0 upTo) store
      { store with indices := store.afterPurge names createdAtField 0 upTo } := by
  have hreached := Naming.reached_of_rotatedNames hnames
  have hothers : ∀ {index}, index ∉ names →
      (store.afterPurge names createdAtField 0 upTo).get? index = store.indices.get? index := by
    intro index hindex
    rw [Store.get?_afterPurge]
    simp [hindex]
  exact
    { listed := hnames
      seen := by
        rintro index found (hfound | hfound)
        · exact hlive.visible_eq hfound
        · exact (hlive.afterPurge names createdAtField 0 upTo).visible_eq hfound
      gone := by
        intro index id document hdocument
        rw [Store.document?_afterPurge, hdocument]
        simp [Option.filter, ← Document.inRange_iff]
      kept := by
        intro index id document hdocument
        rw [Store.document?_afterPurge, Option.filter_eq_some_iff] at hdocument
        exact hdocument.1
      count := by
        simpa only [Document.inRange_iff] using
          hlive.removedBy_eq_length names createdAtField 0 upTo
      decrease := by
        refine ⟨_, _, d.naming.rotatedIndices_eq_listed hreached,
          d.naming.rotatedIndices_eq_listed hreached, ?_, ?_, ?_⟩
        · rw [Table.keys_map, Naming.keys_listed hnames]
        · rw [Table.keys_map, Naming.keys_listed_afterPurge, Naming.keys_listed hnames]
        · rw [d.naming.total_listed hlive,
            d.naming.total_listed (hlive.afterPurge names createdAtField 0 upTo)]
          exact Naming.documentTotal_listed hnames createdAtField 0 upTo
      indices := by
        intro index
        rw [Store.get?_afterPurge]
        cases store.indices.get? index with
        | none => exact ⟨∅, rfl⟩
        | some found =>
          by_cases hindex : index ∈ names
          · exact ⟨(found.purged createdAtField 0 upTo).documents, by simp [hindex, Index.purged]⟩
          · exact ⟨found.documents, by simp [hindex]⟩
      others := hothers
      recent := hothers fun hrecent => by
        have hrotated := (Naming.of_mem_rotatedNames hnames hrecent).1
        rw [d.naming.isRotated_recentIndex] at hrotated
        cases hrotated
      rest := ⟨rfl, rfl, rfl, rfl, rfl⟩ }

/-- To purge again deletes nothing more. -/
theorem purge_again {store : Store} (hnames : d.naming.rotatedNames store = .ok names)
    (upTo : Int)
    (hstore : desk.store =
      { store with indices := store.afterPurge names createdAtField 0 upTo }) :
    ∃ after, Effect.on (d.purge upTo) desk = (.ok 0, after) ∧ after.store = desk.store := by
  have hfaults : desk.store.faults = store.faults := by rw [hstore]
  have hreached : desk.store.faults.unavailable = false :=
    hfaults ▸ Naming.reached_of_rotatedNames hnames
  have hagain : d.naming.rotatedNames desk.store = .ok names := by
    rw [d.naming.rotatedNames_eq_listed hreached, hstore, Naming.keys_listed_afterPurge,
      ← Naming.keys_listed hnames]
  obtain ⟨lines, hpurge⟩ := on_purge hagain upTo
  refine ⟨_, by rw [hpurge, hstore, Store.removedBy_afterPurge], ?_⟩
  rw [hstore, Store.afterPurge_afterPurge]

/-- **A purge deletes exactly its range.** On every store that can be reached, a purge that answers
a number has deleted the documents that were created up to the time from the indices that the
deployment lists, and nothing else; the number is that of the documents deleted, and to purge again
deletes nothing more. It answers a number wherever the store can be reached. Whatever range is
deleted from whichever indices, as long as they exist neither their order nor how often each is
named matters. -/
theorem purge_exact (d : Deployment) (upTo : Int) {desk : Desk}
    (hreachable : desk.store.Reachable) :
    (∀ removed after, Effect.on (d.purge upTo) desk = (.ok removed, after) →
      (∃ names, d.Purged upTo names removed desk.store after.store) ∧
        after.ledger = desk.ledger ∧
        ∃ last, Effect.on (d.purge upTo) after = (.ok 0, last) ∧ last.store = after.store) ∧
      (desk.store.faults.unavailable = false →
        ∃ removed after, Effect.on (d.purge upTo) desk = (.ok removed, after)) ∧
      ∀ names names' field first last,
        (∀ name ∈ names, desk.store.indices.contains name = true) →
          (∀ name, name ∈ names ↔ name ∈ names') →
            Effect.on (Store.deleteByRange names field first last) desk.store =
              Effect.on (Store.deleteByRange names' field first last) desk.store := by
  refine ⟨fun removed after hrun => ?_, fun hreached => ?_,
    fun names names' field first last => Store.on_deleteByRange_congr⟩
  · rcases d.purge_cases upTo desk with ⟨e, hfailed⟩ | ⟨_, _, names, -, hnames, -⟩
    · rw [hfailed] at hrun
      cases hrun
    · obtain ⟨lines, hpurge⟩ := on_purge hnames upTo
      rw [hpurge] at hrun
      cases hrun
      exact ⟨⟨names, d.purged hreachable.live hnames upTo⟩, rfl, purge_again hnames upTo rfl⟩
  · obtain ⟨names, hnames⟩ := d.naming.exists_rotatedNames hreached
    obtain ⟨lines, hpurge⟩ := on_purge hnames upTo
    exact ⟨_, _, hpurge⟩

/-- A document with a time. -/
def dated (time : Int) : Json := .object [(createdAtField, .int time)]

/-- A store with two rotated indices and a recent one. Their documents have times within a range and
around it, a time that does not fit, and none. -/
def datedStore : Store :=
  .run [.operation (.create "logs_0" { shards := 1, replicas := 0 }),
    .operation (.create "logs_1" { shards := 1, replicas := 0 }),
    .operation (.create "logs_recent" { shards := 1, replicas := 0 }),
    .operation (.bulk { items := [{ index := "logs_0", id := "a", source := dated 0 },
      { index := "logs_0", id := "b", source := dated 201 },
      { index := "logs_0", id := "c", source := dated (-1) },
      { index := "logs_1", id := "a", source := dated 200 },
      { index := "logs_1", id := "d", source := dated (2 ^ 63) },
      { index := "logs_1", id := "e", source := .null },
      { index := "logs_recent", id := "a", source := dated 0 }] })]

theorem purge_exact_dated :
    datedStore.Reachable ∧
      (∃ names, Purged (.named "logs" "logs_recent") 200 names 2 datedStore
        (Effect.on (purge (.named "logs" "logs_recent") 200) { store := datedStore }).2.store) ∧
      (∃ last, Effect.on (purge (.named "logs" "logs_recent") 200)
        (Effect.on (purge (.named "logs" "logs_recent") 200) { store := datedStore }).2 =
          (.ok 0, last)) ∧
      Effect.on (Store.deleteByRange ["logs_1", "logs_0", "logs_1"] createdAtField 0 200)
          datedStore =
        Effect.on (Store.deleteByRange ["logs_0", "logs_1"] createdAtField 0 200) datedStore := by
  have hreachable : datedStore.Reachable := .run _
  obtain ⟨hexact, -, hsame⟩ :=
    @purge_exact (.named "logs" "logs_recent") 200 { store := datedStore } hreachable
  obtain ⟨hpurged, -, last, hagain, -⟩ := hexact 2 _ (Prod.ext rfl rfl)
  refine ⟨hreachable, hpurged, ⟨last, hagain⟩, hsame _ _ _ _ _ ?_ fun name => ?_⟩
  · simp only [List.forall_mem_cons]
    exact ⟨rfl, rfl, rfl, nofun⟩
  · simp only [List.mem_cons, List.not_mem_nil, or_false]
    tauto

end Deployment

end RollingIndex
