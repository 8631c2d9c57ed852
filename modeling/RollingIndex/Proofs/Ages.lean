import Mathlib.Data.List.Nodup
import Mathlib.Data.Prod.Lex
import Mathlib.Data.String.Basic
import RollingIndex.Deployment.Retention

/-!
# Indices by age

Indices are put in order by their places in the order of creation, and by their names where two have
the same place (`IndexStats.age`). No two indices of different names are level in this order, so a
list of such indices is put in order in one way only:

* **the oldest are in order and older than all others** (`isOldest_oldestIndices`);
* **what was left of the oldest is the oldest of what was left** (`oldestIndices_filter`): whichever
  indices disappear, those of the oldest that stay are picked again, and no others, if as many are
  picked.
-/

namespace RollingIndex

namespace IndexStats

variable {a b c : IndexStats}

/-- An index is older than another: its place in the order of creation is smaller, or the places are
the same and its name comes first. -/
def Older (a b : IndexStats) : Prop :=
  a.creationOrder < b.creationOrder ∨ a.creationOrder = b.creationOrder ∧ a.name < b.name

theorem atLeastAsOld_iff :
    a.atLeastAsOld b = true ↔
      a.creationOrder < b.creationOrder ∨
        a.creationOrder = b.creationOrder ∧ a.name ≤ b.name := by
  rw [atLeastAsOld]
  split
  · rename_i heq
    simp [heq]
  · rename_i hne
    simp [hne]

/-- What indices are put in order by: the place in the order of creation, and then the name. -/
def age (stats : IndexStats) : ℕ ×ₗ String := toLex (stats.creationOrder, stats.name)

/-- An index is at least as old as another if its age comes first. -/
theorem atLeastAsOld_iff_age_le : a.atLeastAsOld b = true ↔ a.age ≤ b.age := by
  rw [atLeastAsOld_iff, age, age, Prod.Lex.toLex_le_toLex]

theorem atLeastAsOld_trans (a b c : IndexStats) (hab : a.atLeastAsOld b = true)
    (hbc : b.atLeastAsOld c = true) : a.atLeastAsOld c = true := by
  rw [atLeastAsOld_iff_age_le] at hab hbc ⊢
  exact hab.trans hbc

theorem atLeastAsOld_total (a b : IndexStats) :
    (a.atLeastAsOld b || b.atLeastAsOld a) = true := by
  rw [Bool.or_eq_true, atLeastAsOld_iff_age_le, atLeastAsOld_iff_age_le]
  exact le_total a.age b.age

/-- Two indices that are level have the same name. -/
theorem name_eq_of_atLeastAsOld (hab : a.atLeastAsOld b = true) (hba : b.atLeastAsOld a = true) :
    a.name = b.name := by
  rw [atLeastAsOld_iff_age_le] at hab hba
  have hage : a.age = b.age := le_antisymm hab hba
  exact congrArg (fun age => (ofLex age).2) hage

/-- Of two indices with different names one is older. -/
theorem older_of_atLeastAsOld (h : a.atLeastAsOld b = true) (hne : a.name ≠ b.name) :
    a.Older b := by
  rcases atLeastAsOld_iff.mp h with hlt | ⟨heq, hname⟩
  · exact .inl hlt
  · exact .inr ⟨heq, String.not_le.mp fun hname' => hne (String.le_antisymm hname hname')⟩

end IndexStats

/-! ## Lists in order -/

section

variable {indices : List IndexStats}

theorem byAge_perm (indices : List IndexStats) : (byAge indices).Perm indices :=
  List.mergeSort_perm indices _

theorem pairwise_byAge (indices : List IndexStats) :
    (byAge indices).Pairwise fun a b => a.atLeastAsOld b = true :=
  List.pairwise_mergeSort IndexStats.atLeastAsOld_trans IndexStats.atLeastAsOld_total indices

/-- Indices that are in order stay as they are. -/
theorem byAge_of_pairwise (h : indices.Pairwise fun a b => a.atLeastAsOld b = true) :
    byAge indices = indices :=
  List.mergeSort_of_pairwise h

theorem length_oldestIndices (indices : List IndexStats) (count : Nat) :
    (oldestIndices indices count).length = min count indices.length := by
  rw [oldestIndices, List.length_map, List.length_take, (byAge_perm indices).length_eq]

/-- Indices of different names ascend strictly when they are in order. -/
theorem pairwise_older_byAge (hnames : (indices.map (·.name)).Nodup) :
    (byAge indices).Pairwise IndexStats.Older := by
  have hdistinct : ((byAge indices).map (·.name)).Nodup :=
    ((byAge_perm indices).map _).nodup_iff.mpr hnames
  exact ((pairwise_byAge indices).and (List.pairwise_map.mp hdistinct)).imp fun ⟨hage, hne⟩ =>
    IndexStats.older_of_atLeastAsOld hage hne

/-- It makes no difference whether indices are left out before or after they are put in order. -/
theorem byAge_filter (hnames : (indices.map (·.name)).Nodup) (keep : IndexStats → Bool) :
    byAge (indices.filter keep) = (byAge indices).filter keep := by
  have hperm : (byAge (indices.filter keep)).Perm ((byAge indices).filter keep) :=
    (byAge_perm _).trans ((byAge_perm indices).filter keep).symm
  refine hperm.eq_of_pairwise (fun a b ha hb hab hba => ?_) (pairwise_byAge _)
    ((pairwise_byAge indices).sublist List.filter_sublist)
  -- two that are level have one name, and the list has no name twice
  have hmem : ∀ {stats}, stats ∈ (byAge indices).filter keep → stats ∈ indices := fun hstats =>
    (byAge_perm indices).mem_iff.mp (List.mem_of_mem_filter hstats)
  exact List.inj_on_of_nodup_map hnames (hmem (hperm.mem_iff.mp ha)) (hmem hb)
    (IndexStats.name_eq_of_atLeastAsOld hab hba)

/-- **What was left of the oldest is the oldest of what was left.** -/
theorem oldestIndices_filter (hnames : (indices.map (·.name)).Nodup) (keep : String → Bool)
    (count : Nat) :
    oldestIndices (indices.filter fun stats => keep stats.name)
        ((oldestIndices indices count).filter keep).length =
      (oldestIndices indices count).filter keep := by
  have hpicked : (oldestIndices indices count).filter keep =
      (((byAge indices).take count).filter fun stats => keep stats.name).map (·.name) := by
    rw [oldestIndices, List.filter_map]
    rfl
  have hsplit : (byAge indices).filter (fun stats => keep stats.name) =
      ((byAge indices).take count).filter (fun stats => keep stats.name) ++
        ((byAge indices).drop count).filter fun stats => keep stats.name := by
    rw [← List.filter_append, List.take_append_drop]
  rw [hpicked, oldestIndices, byAge_filter hnames, hsplit, List.length_map, List.take_left]

end

/-! ## The oldest of a listing -/

namespace Table

variable {listed : Table IndexStats} {name : String} {stats : IndexStats}

/-- Every entry of the listing bears the name that it is listed under. -/
def Named (listed : Table IndexStats) : Prop :=
  ∀ {name : String} {stats : IndexStats}, listed.get? name = some stats → stats.name = name

/-- The names are those of the oldest indices of a listing, from the oldest to the newest. -/
structure IsOldest (listed : Table IndexStats) (picked : List String) : Prop where
  /-- they are listed -/
  contains : ∀ name ∈ picked, listed.contains name = true
  /-- they are in order -/
  ascending : picked.Pairwise fun name other => ∀ a b,
    listed.get? name = some a → listed.get? other = some b → a.Older b
  /-- they are older than all others -/
  before : ∀ name ∈ picked, ∀ other ∉ picked, ∀ a b,
    listed.get? name = some a → listed.get? other = some b → a.Older b

theorem names_eq_keys (hnamed : listed.Named) : listed.values.map (·.name) = listed.keys := by
  rw [values, keys, List.map_map]
  refine List.map_congr_left ?_
  rintro ⟨name, stats⟩ hmem
  exact hnamed (get?_eq_some_iff.mpr hmem)

theorem nodup_keys {α : Type} (t : Table α) : t.keys.Nodup :=
  List.pairwise_map.mpr (t.ascending.imp fun hlt => String.ne_of_lt hlt)

theorem nodup_names (hnamed : listed.Named) : (listed.values.map (·.name)).Nodup :=
  names_eq_keys hnamed ▸ listed.nodup_keys

theorem mem_values_iff (hnamed : listed.Named) :
    stats ∈ listed.values ↔ listed.get? stats.name = some stats := by
  rw [values, List.mem_map, get?_eq_some_iff]
  constructor
  · rintro ⟨⟨name, stats⟩, hmem, rfl⟩
    have hname : stats.name = name := hnamed (get?_eq_some_iff.mpr hmem)
    exact hname ▸ hmem
  · exact fun hmem => ⟨_, hmem, rfl⟩

theorem contains_of_mem_oldestIndices (hnamed : listed.Named) {count : Nat}
    (hname : name ∈ oldestIndices listed.values count) : listed.contains name = true := by
  obtain ⟨stats, hstats, rfl⟩ := List.mem_map.mp hname
  have hmem : stats ∈ listed.values :=
    (byAge_perm _).mem_iff.mp (List.mem_of_mem_take hstats)
  exact contains_eq_true_iff.mpr ⟨stats, (mem_values_iff hnamed).mp hmem⟩

/-- No index is picked twice. -/
theorem nodup_oldestIndices (hnamed : listed.Named) (count : Nat) :
    (oldestIndices listed.values count).Nodup := by
  have hall : ((byAge listed.values).map (·.name)).Nodup :=
    ((byAge_perm _).map _).nodup_iff.mpr (nodup_names hnamed)
  exact hall.sublist ((List.take_sublist _ _).map _)

/-- **The oldest of a listing are in order and older than all others.** -/
theorem isOldest_oldestIndices (hnamed : listed.Named) (count : Nat) :
    listed.IsOldest (oldestIndices listed.values count) := by
  have hascending := pairwise_older_byAge (nodup_names hnamed)
  refine ⟨fun name => contains_of_mem_oldestIndices hnamed, ?_, ?_⟩
  · refine List.pairwise_map.mpr ((hascending.sublist (List.take_sublist _ _)).imp_of_mem ?_)
    intro a b ha hb holder a' b' ha' hb'
    have hself : ∀ {stats}, stats ∈ (byAge listed.values).take count →
        listed.get? stats.name = some stats := fun hstats =>
      (mem_values_iff hnamed).mp ((byAge_perm _).mem_iff.mp (List.mem_of_mem_take hstats))
    rw [hself ha, Option.some_inj] at ha'
    rw [hself hb, Option.some_inj] at hb'
    exact ha' ▸ hb' ▸ holder
  · intro name hname other hother a b ha hb
    have hmem : ∀ {name stats}, listed.get? name = some stats → stats ∈ byAge listed.values :=
      fun hstats => (byAge_perm _).mem_iff.mpr
        ((mem_values_iff hnamed).mpr (by rwa [hnamed hstats]))
    -- the one is among the first of all in order, and the other behind them
    rw [← List.take_append_drop count (byAge listed.values), List.pairwise_append] at hascending
    obtain ⟨stats, hstats, rfl⟩ := List.mem_map.mp hname
    have hfirst : a ∈ (byAge listed.values).take count := by
      have hself := (mem_values_iff hnamed).mp
        ((byAge_perm _).mem_iff.mp (List.mem_of_mem_take hstats))
      rw [hself, Option.some_inj] at ha
      exact ha ▸ hstats
    have hsecond : b ∈ (byAge listed.values).drop count := by
      have hall := hmem hb
      rw [← List.take_append_drop count (byAge listed.values), List.mem_append] at hall
      refine hall.resolve_left fun hfirst => hother ?_
      exact List.mem_map.mpr ⟨b, hfirst, hnamed hb⟩
    exact hascending.2.2 a hfirst b hsecond

end Table

end RollingIndex
