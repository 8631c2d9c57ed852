/-!
# Tables keyed by names

A `Table` is a finite map whose entries stand in strictly ascending order of their names. The order
is the one in which listings are answered, and it makes the representation canonical:

* **lookup determines a table** (`Table.ext_get?`): two tables that answer every lookup alike are
  equal, so "nothing changed" can be said as an equation between tables;
* **each operation has one equation for `get?`**, which is all that later proofs use of it.

A set of names is a table without values (`NameSet`).
-/

namespace RollingIndex

universe u v

/-- A finite map from names to values. -/
structure Table (α : Type u) where
  /-- the entries, each name once -/
  entries : List (String × α)
  /-- names ascend strictly, by code points -/
  ascending : entries.Pairwise (fun a b => a.1 < b.1)
deriving DecidableEq

namespace Table

variable {α : Type u} {β : Type v}

/-! ## Operations -/

/-- The table without entries. -/
protected def empty : Table α := ⟨[], .nil⟩

instance : EmptyCollection (Table α) := ⟨Table.empty⟩

instance : Inhabited (Table α) := ⟨∅⟩

/-- The value of the first entry of a name. -/
def lookup (key : String) : List (String × α) → Option α
  | [] => none
  | (name, value) :: rest => if key = name then some value else lookup key rest

/-- The value stored under a name. -/
def get? (t : Table α) (name : String) : Option α := lookup name t.entries

/-- Whether a name has a value. -/
def contains (t : Table α) (name : String) : Bool := (t.get? name).isSome

/-- The names, ascending. -/
def keys (t : Table α) : List String := t.entries.map (·.1)

/-- The values in the order of their names. -/
def values (t : Table α) : List α := t.entries.map (·.2)

/-- The number of entries. -/
def size (t : Table α) : Nat := t.entries.length

/-- Whether there is no entry. -/
def isEmpty (t : Table α) : Bool := t.entries.isEmpty

/-- The sum of a number over all values. -/
def total (measure : α → Nat) (t : Table α) : Nat :=
  t.entries.foldr (fun entry sum => measure entry.2 + sum) 0

/-- Put one entry in its place, replacing the one of the same name. -/
def insertEntry (name : String) (value : α) : List (String × α) → List (String × α)
  | [] => [(name, value)]
  | (other, old) :: rest =>
    if name < other then (name, value) :: (other, old) :: rest
    else if other < name then (other, old) :: insertEntry name value rest
    else (name, value) :: rest

theorem mem_insertEntry {name : String} {value : α} {entry : String × α} :
    ∀ {entries : List (String × α)}, entry ∈ insertEntry name value entries →
      entry = (name, value) ∨ entry ∈ entries
  | [], h => by simpa [insertEntry] using h
  | (other, old) :: rest, h => by
    rw [insertEntry] at h
    split at h
    · simpa using h
    · split at h
      · rcases List.mem_cons.1 h with rfl | h
        · simp
        · rcases mem_insertEntry h with h | h <;> simp [h]
      · rcases List.mem_cons.1 h with h | h <;> simp [h]

/-- Two names neither of which comes before the other are the same name. -/
theorem eq_of_not_lt {a b : String} (hab : ¬ a < b) (hba : ¬ b < a) : a = b :=
  String.le_antisymm (String.not_lt.1 hba) (String.not_lt.1 hab)

theorem ascending_insertEntry (name : String) (value : α) :
    ∀ {entries : List (String × α)}, entries.Pairwise (fun a b => a.1 < b.1) →
      (insertEntry name value entries).Pairwise (fun a b => a.1 < b.1)
  | [], _ => List.pairwise_singleton _ _
  | (other, old) :: rest, h => by
    have hhead : ∀ entry ∈ rest, other < entry.1 := fun _ hm => List.rel_of_pairwise_cons h hm
    rw [insertEntry]
    split
    · rename_i hlt
      refine h.cons fun entry hm => ?_
      rcases List.mem_cons.1 hm with rfl | hm
      · exact hlt
      · exact String.lt_trans hlt (hhead _ hm)
    · rename_i hnot
      split
      · rename_i hlt
        refine (ascending_insertEntry name value h.of_cons).cons fun entry hm => ?_
        rcases mem_insertEntry hm with rfl | hm
        · exact hlt
        · exact hhead _ hm
      · rename_i hnot'
        obtain rfl := eq_of_not_lt hnot hnot'
        exact h.of_cons.cons hhead

/-- Store a value under a name, replacing an earlier one. -/
def insert (t : Table α) (name : String) (value : α) : Table α :=
  ⟨insertEntry name value t.entries, ascending_insertEntry name value t.ascending⟩

/-- Keep the entries that pass a test. -/
def filter (t : Table α) (keep : String → α → Bool) : Table α :=
  ⟨t.entries.filter fun entry => keep entry.1 entry.2, t.ascending.filter _⟩

/-- Drop the entry of a name. -/
def erase (t : Table α) (name : String) : Table α := t.filter fun other _ => other != name

/-- Change every value; names stay. -/
def map (t : Table α) (f : String → α → β) : Table β :=
  ⟨t.entries.map fun entry => (entry.1, f entry.1 entry.2), List.pairwise_map.2 t.ascending⟩

/-- Change the value of one name, if it has one. -/
def modify (t : Table α) (name : String) (f : α → α) : Table α :=
  t.map fun other value => if other = name then f value else value

/-- The table of a list of entries; of several with one name the last counts. -/
def ofList (entries : List (String × α)) : Table α :=
  entries.foldl (fun t entry => t.insert entry.1 entry.2) ∅

/-! ## What each operation does to lookups -/

@[simp] theorem get?_empty (name : String) : (∅ : Table α).get? name = none := rfl

theorem lookup_insertEntry (name key : String) (value : α) :
    ∀ entries : List (String × α), lookup key (insertEntry name value entries) =
      if key = name then some value else lookup key entries
  | [] => rfl
  | (other, old) :: rest => by
    rw [insertEntry]
    split
    · rfl
    · rename_i hnot
      split
      · rename_i hlt
        have hne : other ≠ name := fun h => String.lt_irrefl _ (h ▸ hlt)
        rw [lookup, lookup, lookup_insertEntry name key value rest]
        by_cases hk : key = other
        · subst hk; simp [hne]
        · simp [hk]
      · rename_i hnot'
        obtain rfl := eq_of_not_lt hnot hnot'
        by_cases h : key = name <;> simp [lookup, h]

@[simp] theorem get?_insert (t : Table α) (name key : String) (value : α) :
    (t.insert name value).get? key = if key = name then some value else t.get? key :=
  lookup_insertEntry name key value t.entries

theorem lookup_eq_some_iff {key : String} {value : α} :
    ∀ {entries : List (String × α)}, entries.Pairwise (fun a b => a.1 < b.1) →
      (lookup key entries = some value ↔ (key, value) ∈ entries)
  | [], _ => by simp [lookup]
  | (other, old) :: rest, h => by
    have ih := @lookup_eq_some_iff key value rest h.of_cons
    rw [lookup]
    by_cases hk : key = other
    · subst hk
      have hnot : (key, value) ∉ rest := fun hm =>
        String.lt_irrefl key (List.rel_of_pairwise_cons h hm)
      simp [hnot, eq_comm]
    · simp [hk, ih]

theorem get?_eq_some_iff {t : Table α} {key : String} {value : α} :
    t.get? key = some value ↔ (key, value) ∈ t.entries :=
  lookup_eq_some_iff t.ascending

@[simp] theorem mem_keys_iff {t : Table α} {key : String} :
    key ∈ t.keys ↔ ∃ value, t.get? key = some value := by
  simp [keys, get?_eq_some_iff]

theorem get?_eq_none_iff {t : Table α} {key : String} : t.get? key = none ↔ key ∉ t.keys := by
  rw [mem_keys_iff]
  cases t.get? key <;> simp

@[simp] theorem contains_eq_true_iff {t : Table α} {key : String} :
    t.contains key = true ↔ ∃ value, t.get? key = some value := by
  simp [contains, Option.isSome_iff_exists]

@[simp] theorem get?_filter (t : Table α) (keep : String → α → Bool) (key : String) :
    (t.filter keep).get? key = (t.get? key).filter (keep key) := by
  apply Option.ext
  intro value
  rw [Option.filter_eq_some_iff, get?_eq_some_iff, get?_eq_some_iff]
  exact List.mem_filter

@[simp] theorem get?_erase (t : Table α) (name key : String) :
    (t.erase name).get? key = if key = name then none else t.get? key := by
  rw [erase, get?_filter]
  by_cases h : key = name <;> cases t.get? key <;> simp [h, Option.filter]

@[simp] theorem get?_map (t : Table α) (f : String → α → β) (key : String) :
    (t.map f).get? key = (t.get? key).map (f key) := by
  apply Option.ext
  intro value
  rw [Option.map_eq_some_iff, get?_eq_some_iff]
  simp only [get?_eq_some_iff, map, List.mem_map, Prod.mk.injEq, Prod.exists]
  constructor
  · rintro ⟨k, old, hm, rfl, rfl⟩; exact ⟨old, hm, rfl⟩
  · rintro ⟨old, hm, rfl⟩; exact ⟨key, old, hm, rfl, rfl⟩

@[simp] theorem get?_modify (t : Table α) (name key : String) (f : α → α) :
    (t.modify name f).get? key = if key = name then (t.get? key).map f else t.get? key := by
  rw [modify, get?_map]
  by_cases h : key = name <;> simp [h]

/-! ## Lookup determines the table -/

theorem entries_ext : ∀ {xs ys : List (String × α)}, xs.Pairwise (fun a b => a.1 < b.1) →
    ys.Pairwise (fun a b => a.1 < b.1) → (∀ entry, entry ∈ xs ↔ entry ∈ ys) → xs = ys
  | [], [], _, _, _ => rfl
  | [], y :: ys, _, _, h => absurd ((h y).2 (by simp)) (by simp)
  | x :: xs, [], _, _, h => absurd ((h x).1 (by simp)) (by simp)
  | x :: xs, y :: ys, hx, hy, h => by
    have hxy : x = y := by
      rcases List.mem_cons.1 ((h x).1 (by simp)) with hxy | hxy
      · exact hxy
      · rcases List.mem_cons.1 ((h y).2 (by simp)) with hyx | hyx
        · exact hyx.symm
        · exact absurd (List.rel_of_pairwise_cons hx hyx)
            (String.lt_asymm (List.rel_of_pairwise_cons hy hxy))
    subst hxy
    refine congrArg _ (entries_ext hx.of_cons hy.of_cons fun entry => ⟨fun hm => ?_, fun hm => ?_⟩)
    · rcases List.mem_cons.1 ((h entry).1 (List.mem_cons_of_mem _ hm)) with rfl | hm'
      · exact absurd (List.rel_of_pairwise_cons hx hm) (String.lt_irrefl _)
      · exact hm'
    · rcases List.mem_cons.1 ((h entry).2 (List.mem_cons_of_mem _ hm)) with rfl | hm'
      · exact absurd (List.rel_of_pairwise_cons hy hm) (String.lt_irrefl _)
      · exact hm'

/-- **Extensionality.** Tables that answer every lookup alike are equal. -/
theorem ext_get? {t s : Table α} (h : ∀ key, t.get? key = s.get? key) : t = s := by
  have hentries : t.entries = s.entries :=
    entries_ext t.ascending s.ascending fun ⟨key, value⟩ => by
      rw [← get?_eq_some_iff, ← get?_eq_some_iff, h]
  cases t; cases s
  cases hentries
  rfl

end Table

/-! ## Sets of names -/

/-- A finite set of names, listed in ascending order. -/
abbrev NameSet := Table Unit

namespace NameSet

/-- Add a name. -/
def add (s : NameSet) (name : String) : NameSet := s.insert name ()

@[simp] theorem contains_add (s : NameSet) (name key : String) :
    (s.add name).contains key = (decide (key = name) || s.contains key) := by
  by_cases h : key = name <;> simp [add, Table.contains, h]

end NameSet

end RollingIndex
