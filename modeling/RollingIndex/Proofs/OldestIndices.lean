import RollingIndex.Proofs.Ages

/-!
# The oldest indices of a list

The oldest indices are picked from any list, in which two indices may have the same place in the
order of creation, and an index may be there more than once. Of indices that are level in age one is
as good as another, but their names are the same, and names are what is answered:

* **lists in order with the same indices show the same ages** (`map_age_eq_of_perm`), though those
  that are level may have changed places;
* **the indices picked and those left split the list by age** (`splitsByAge_byAge`);
* **a split by age is determined up to names** (`SplitsByAge.map_name_eq`): whoever splits the list
  in another way has picked the same names.

So what is answered are the names of the true oldest, whatever the order of the list
(`oldestIndices_are_oldest`).
-/

namespace RollingIndex

/-! ## Splitting a list by age -/

/-- The indices are split into some of the oldest and the others. -/
structure SplitsByAge (indices oldest others : List IndexStats) : Prop where
  /-- the two parts together hold every index as often as the list does -/
  perm : (oldest ++ others).Perm indices
  /-- the oldest are in order -/
  ascending : oldest.Pairwise fun a b => a.age ≤ b.age
  /-- none of the others is older than one of them -/
  before : ∀ a ∈ oldest, ∀ b ∈ others, a.age ≤ b.age

section

variable {indices oldest others xs ys : List IndexStats}

theorem pairwise_age_byAge (indices : List IndexStats) :
    (byAge indices).Pairwise fun a b => a.age ≤ b.age :=
  (pairwise_byAge indices).imp IndexStats.atLeastAsOld_iff_age_le.mp

/-- **Lists in order with the same indices show the same ages.** -/
theorem map_age_eq_of_perm (hperm : xs.Perm ys) (hxs : xs.Pairwise fun a b => a.age ≤ b.age)
    (hys : ys.Pairwise fun a b => a.age ≤ b.age) :
    xs.map IndexStats.age = ys.map IndexStats.age :=
  (hperm.map _).eq_of_pairwise (fun _ _ _ _ => le_antisymm) (List.pairwise_map.mpr hxs)
    (List.pairwise_map.mpr hys)

/-- The names of the oldest are read off their ages. -/
theorem oldestIndices_eq_of_age (indices : List IndexStats) (count : Nat) :
    oldestIndices indices count =
      (((byAge indices).map IndexStats.age).take count).map fun age => (ofLex age).2 := by
  rw [oldestIndices, ← List.map_take, List.map_map]
  rfl

/-- The indices picked and those left split the list. -/
theorem splitsByAge_byAge (indices : List IndexStats) (count : Nat) :
    SplitsByAge indices ((byAge indices).take count) ((byAge indices).drop count) := by
  have hparts := List.take_append_drop count (byAge indices)
  have hsorted := pairwise_age_byAge indices
  rw [← hparts, List.pairwise_append] at hsorted
  obtain ⟨hfirst, -, hbefore⟩ := hsorted
  exact ⟨(List.Perm.of_eq hparts).trans (byAge_perm indices), hfirst, hbefore⟩

/-- **A split by age is determined up to names.** -/
theorem SplitsByAge.map_name_eq (h : SplitsByAge indices oldest others) :
    oldest.map (·.name) = oldestIndices indices oldest.length := by
  -- with the others put in order too, the whole list is in order
  have hsorted : (oldest ++ byAge others).Pairwise fun a b => a.age ≤ b.age :=
    List.pairwise_append.mpr ⟨h.ascending, pairwise_age_byAge others, fun a ha b hb =>
      h.before a ha b ((byAge_perm others).mem_iff.mp hb)⟩
  have hperm : (oldest ++ byAge others).Perm (byAge indices) :=
    (((byAge_perm others).append_left oldest).trans h.perm).trans (byAge_perm indices).symm
  have hages := map_age_eq_of_perm hperm hsorted (pairwise_age_byAge indices)
  rw [oldestIndices_eq_of_age, ← hages, List.map_append,
    List.take_left' (List.length_map _), List.map_map]
  rfl

/-- The order of the list makes no difference. -/
theorem oldestIndices_eq_of_perm (hperm : xs.Perm ys) (count : Nat) :
    oldestIndices xs count = oldestIndices ys count := by
  have hsame : (byAge xs).Perm (byAge ys) :=
    ((byAge_perm xs).trans hperm).trans (byAge_perm ys).symm
  rw [oldestIndices_eq_of_age, oldestIndices_eq_of_age,
    map_age_eq_of_perm hsame (pairwise_age_byAge xs) (pairwise_age_byAge ys)]

/-- Who asks for more gets the same first. -/
theorem oldestIndices_prefix_of_le {count more : Nat} (h : count ≤ more) :
    oldestIndices indices count <+: oldestIndices indices more :=
  (List.take_prefix_take_left h).map _

end

/-- **The oldest indices are the true oldest.** From any list as many names are picked as are asked
for, or all if there are fewer. They are the names of a part of the list that is in order, and no
other entry of the list is older than one of this part; any part of the same size that is in order
and as old has the same names. The order of the list makes no difference, and who asks for more gets
the same names first. -/
theorem oldestIndices_are_oldest (indices : List IndexStats) (count : Nat) :
    (oldestIndices indices count).length = min count indices.length ∧
      (∃ oldest others, SplitsByAge indices oldest others ∧
        oldestIndices indices count = oldest.map (·.name)) ∧
      (∀ oldest others, SplitsByAge indices oldest others →
        oldest.length = min count indices.length →
        oldest.map (·.name) = oldestIndices indices count) ∧
      (∀ rearranged : List IndexStats, rearranged.Perm indices →
        oldestIndices rearranged count = oldestIndices indices count) ∧
      ∀ more, count ≤ more → oldestIndices indices count <+: oldestIndices indices more := by
  refine ⟨length_oldestIndices indices count, ⟨_, _, splitsByAge_byAge indices count, rfl⟩, ?_,
    fun rearranged hperm => oldestIndices_eq_of_perm hperm count,
    fun more hmore => oldestIndices_prefix_of_le hmore⟩
  intro oldest others hsplit hlength
  rw [hsplit.map_name_eq, hlength]
  refine (oldestIndices_prefix_of_le (Nat.min_le_left ..)).eq_of_length ?_
  rw [length_oldestIndices, length_oldestIndices, Nat.min_assoc, Nat.min_self]

/-- Four indices, three of which have the same place in the order of creation. Two of these have one
name, and differ in their documents only. -/
def tied : List IndexStats :=
  [⟨"b", 0, 0, 1⟩, ⟨"a", 3, 30, 1⟩, ⟨"c", 0, 0, 0⟩, ⟨"a", 5, 50, 1⟩]

/-- The name decides between those with the same place, and both that have the name `a` are picked. -/
theorem oldestIndices_are_oldest_tied :
    SplitsByAge tied [⟨"c", 0, 0, 0⟩, ⟨"a", 5, 50, 1⟩, ⟨"a", 3, 30, 1⟩] [⟨"b", 0, 0, 1⟩] ∧
      oldestIndices tied 3 = ["c", "a", "a"] ∧
      tied.reverse.Perm tied ∧ oldestIndices tied.reverse 3 = ["c", "a", "a"] ∧
      3 ≤ 4 ∧ ["c", "a", "a"] <+: oldestIndices tied 4 := by
  have hsplit : SplitsByAge tied [⟨"c", 0, 0, 0⟩, ⟨"a", 5, 50, 1⟩, ⟨"a", 3, 30, 1⟩]
      [⟨"b", 0, 0, 1⟩] := ⟨by decide, by decide, by decide⟩
  have hreverse : tied.reverse.Perm tied := List.reverse_perm tied
  obtain ⟨-, -, hunique, hperm, hmore⟩ := oldestIndices_are_oldest tied 3
  have hpicked : oldestIndices tied 3 = ["c", "a", "a"] := (hunique _ _ hsplit rfl).symm
  exact ⟨hsplit, hpicked, hreverse, (hperm _ hreverse).trans hpicked, by decide,
    hpicked ▸ hmore 4 (by decide)⟩

end RollingIndex
