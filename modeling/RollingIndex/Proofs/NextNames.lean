import RollingIndex.Proofs.NameSpaces

/-!
# The next name

The name of the next index is found from a list of names, in any order, some of them perhaps
foreign, repeated or spelled in an unusual way. Only their numbers count:

* **more numbers give no smaller next number** (`Naming.IsNext.le`), so what comes next is
  determined by the set of the numbers (`Naming.IsNext.congr`, `Naming.nextNumber_congr`);
* **the next name is not among the names**, under any spelling of its number
  (`Naming.nextName_fresh`), for its number is greater than all of theirs.

The name that follows the greatest number of 64 bits has the number zero, which may be taken. So the
second result is about lists in which no name has that number; the first one is about all lists.
-/

namespace RollingIndex

namespace Naming

variable {naming : Naming} {names others : List String} {next next' : Nat}

/-- **More numbers give no smaller next number.** -/
theorem IsNext.le (h : naming.IsNext names next) (h' : naming.IsNext others next')
    (hnumbers : ∀ name ∈ names, ∀ n, naming.indexNumber? name = some n →
      ∃ other ∈ others, naming.indexNumber? other = some n) : next ≤ next' := by
  cases h with
  | first => exact Nat.zero_le next'
  | after name greatest hname hnumber =>
    obtain ⟨other, hother, hsame⟩ := hnumbers name hname greatest hnumber
    exact h'.lt hother hsame

/-- What comes next is determined by the numbers of the names. -/
theorem IsNext.congr (h : naming.IsNext names next) (h' : naming.IsNext others next')
    (hnumbers : ∀ n, (∃ name ∈ names, naming.indexNumber? name = some n) ↔
      ∃ other ∈ others, naming.indexNumber? other = some n) : next = next' := by
  refine Nat.le_antisymm (h.le h' fun name hname n hn => ?_) (h'.le h fun other hother n hn => ?_)
  · exact (hnumbers n).mp ⟨name, hname, hn⟩
  · exact (hnumbers n).mpr ⟨other, hother, hn⟩

/-- Names with the same numbers have the same next number. -/
theorem nextNumber_congr
    (hnumbers : ∀ n, (∃ name ∈ names, naming.indexNumber? name = some n) ↔
      ∃ other ∈ others, naming.indexNumber? other = some n) :
    naming.nextNumber names = naming.nextNumber others := by
  obtain ⟨next, hnext, hnumber⟩ := naming.exists_isNext names
  obtain ⟨next', hnext', hnumber'⟩ := naming.exists_isNext others
  rw [hnumber, hnumber', hnext.congr hnext' hnumbers]

/-- The order and the repetition of names make no difference. -/
theorem nextNumber_eq_of_mem_iff (h : ∀ name, name ∈ others ↔ name ∈ names) :
    naming.nextNumber others = naming.nextNumber names :=
  nextNumber_congr fun _ => exists_congr fun name => and_congr_left' (h name)

/-- **The next name is fresh.** If no name has the greatest number, the name that is given next has
a number, which comes next after the names: it is one more than the greatest of their numbers, or
zero if none has a number, and so greater than all of them. The name is not among the names, and it
is the same for every list of these names, whatever their order and however often each is there. -/
theorem nextName_fresh (naming : Naming) (names : List String)
    (hroom : ∀ name ∈ names, naming.indexNumber? name ≠ some (powerOfTwo 64 - 1)) :
    ∃ next, naming.nextName names = naming.indexName next ∧
      naming.indexNumber? (naming.nextName names) = some next ∧
      naming.IsNext names next ∧
      (∀ name ∈ names, ∀ n, naming.indexNumber? name = some n → n < next) ∧
      naming.nextName names ∉ names ∧
      ∀ others : List String, (∀ name, name ∈ others ↔ name ∈ names) →
        naming.nextName others = naming.nextName names := by
  have hnext : naming.IsNext names (naming.nextNumber names) := isNext_nextNumber hroom
  have hnumber := naming.indexNumber?_nextName names
  refine ⟨naming.nextNumber names, rfl, hnumber, hnext, fun name hname n hn => hnext.lt hname hn,
    fun hmem => ?_, fun others hothers => ?_⟩
  · exact Nat.lt_irrefl _ (hnext.lt hmem hnumber)
  · rw [nextName, nextName, nextNumber_eq_of_mem_iff hothers]

/-- Names of which four have a number, two of them the same and one of them twice. -/
def assorted : List String :=
  ["logs_2", "logs_+012", "other_99", "logs_12", "logs_recent", "logs_12", "logs_deflector"]

/-- After these names comes `logs_13`, also if they are listed backwards or twice. -/
theorem nextName_fresh_assorted :
    (∀ name ∈ assorted,
        Naming.indexNumber? ⟨"logs", "logs_recent"⟩ name ≠ some (powerOfTwo 64 - 1)) ∧
      Naming.nextName ⟨"logs", "logs_recent"⟩ assorted = "logs_13" ∧
      "logs_13" ∉ assorted ∧
      Naming.nextName ⟨"logs", "logs_recent"⟩ (assorted.reverse ++ assorted) = "logs_13" := by
  have hroom : ∀ name ∈ assorted,
      Naming.indexNumber? ⟨"logs", "logs_recent"⟩ name ≠ some (powerOfTwo 64 - 1) := by decide
  have hname : Naming.nextName ⟨"logs", "logs_recent"⟩ assorted = "logs_13" := by decide
  obtain ⟨next, -, -, -, -, hfresh, hsame⟩ := nextName_fresh ⟨"logs", "logs_recent"⟩ assorted hroom
  refine ⟨hroom, hname, hname ▸ hfresh, ?_⟩
  rw [hsame _ fun name => by simp, hname]

end Naming

end RollingIndex
