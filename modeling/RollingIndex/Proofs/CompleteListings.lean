import RollingIndex.Proofs.Configurations
import RollingIndex.Proofs.Listings

/-!
# Complete listings

What a deployment rotates past, purges and sweeps are the indices that it lists as rotated. It asks
the store for them by a pattern that it puts together from the stem and the name of the recent
index, and a pattern can hide a rotated index:

* **the listing is complete in every store exactly if the pattern hides no name of a rotated
  index** (`Naming.HidesNone`), for nothing but the pattern can keep an index out
  (`Naming.rotatedIndices_eq`);
* **the pattern hides none if the settings are legible** (`Naming.Legible.hidesNone`).

An accepted configuration need not be legible. A recent index called `<stem>_*` hides all rotated
indices, and the first rotation is the last (`Naming.rotatedIndices_incomplete`).
-/

namespace RollingIndex

namespace Store

/-- The listing of a pattern: the statistics of the indices that it selects. -/
def listing (store : Store) (pattern : String) : Table IndexStats :=
  (store.selected pattern).map Index.stats

theorem get?_listing (store : Store) (pattern name : String) :
    (store.listing pattern).get? name =
      if (Pattern.ofText pattern).selects name then (store.indices.get? name).map (Index.stats name)
      else none := by
  rw [listing, selected, Table.get?_map, Table.get?_filter]
  cases store.indices.get? name <;> cases (Pattern.ofText pattern).selects name <;> rfl

/-- A store that can be reached answers with the listing. -/
theorem stats_eq_listing {store : Store} (hreached : store.faults.unavailable = false)
    (pattern : String) : store.stats pattern = .ok (store.listing pattern) :=
  stats_eq_ok_iff.mpr ⟨hreached, rfl⟩

end Store

namespace Naming

variable {naming : Naming} {store : Store} {name : String}

/-- The statistics of all indices of a store that are rotated indices of the deployment. -/
def rotatedOf (naming : Naming) (store : Store) : Table IndexStats :=
  (store.indices.filter fun name _ => naming.isRotated name).map Index.stats

/-- The pattern of the rotated indices selects the name of every rotated index. -/
def HidesNone (naming : Naming) : Prop :=
  ∀ name, naming.isRotated name = true →
    (Pattern.ofText naming.rotatedPattern).selects name = true

theorem get?_rotatedOf (naming : Naming) (store : Store) (name : String) :
    (naming.rotatedOf store).get? name =
      if naming.isRotated name then (store.indices.get? name).map (Index.stats name) else none := by
  rw [rotatedOf, Table.get?_map, Table.get?_filter]
  cases store.indices.get? name <;> cases naming.isRotated name <;> rfl

/-- The recent index is not rotated. -/
theorem isRotated_recentIndex (naming : Naming) : naming.isRotated naming.recentIndex = false := by
  rw [isRotated, bne_self_eq_false, Bool.false_and]

theorem ne_of_isRotated (h : naming.isRotated name = true) : name ≠ naming.recentIndex := by
  rintro rfl
  rw [isRotated_recentIndex] at h
  cases h

/-- A store that can be reached lists the rotated indices that the pattern selects. -/
theorem rotatedIndices_eq (naming : Naming) (hreached : store.faults.unavailable = false) :
    naming.rotatedIndices store =
      .ok ((naming.rotatedOf store).filter fun name _ =>
        (Pattern.ofText naming.rotatedPattern).selects name) := by
  rw [rotatedIndices, Store.stats_eq_listing hreached]
  refine congrArg Except.ok (Table.ext_get? fun name => ?_)
  -- both sides keep an index by its name, first by the one test and then by the other
  rw [Table.get?_filter, Store.get?_listing, Table.get?_filter, get?_rotatedOf]
  cases store.indices.get? name <;>
    cases (Pattern.ofText naming.rotatedPattern).selects name <;>
      cases naming.isRotated name <;> rfl

/-- **Legible settings hide no rotated index.** -/
theorem Legible.hidesNone (h : naming.Legible) : naming.HidesNone := by
  intro name hrotated
  obtain ⟨rest, -, hname⟩ := Owns.of_isRotated hrotated
  exact h.selects_rotatedPattern_iff.mpr ⟨accepts_allGlob hname, ne_of_isRotated hrotated⟩

/-- A listing is complete if the pattern hides nothing. -/
theorem HidesNone.rotatedIndices_eq (h : naming.HidesNone)
    (hreached : store.faults.unavailable = false) :
    naming.rotatedIndices store = .ok (naming.rotatedOf store) := by
  rw [naming.rotatedIndices_eq hreached]
  refine congrArg Except.ok (Table.ext_get? fun name => ?_)
  rw [Table.get?_filter, get?_rotatedOf]
  cases hrotated : naming.isRotated name with
  | true =>
    rw [h name hrotated]
    cases store.indices.get? name <;> rfl
  | false => rfl

/-- **When the listing of the rotated indices is complete.** It is complete in every store that can
be reached, so that it holds exactly the indices of the store that are rotated indices of the
deployment, each with its statistics, if and only if the pattern of the deployment hides no name of
a rotated index. Legible settings hide none: a stem without a comma that begins neither with `-` nor
with a blank, and a name of the recent index without comma and wildcards and without a blank at its
end. -/
theorem rotatedIndices_complete_iff (naming : Naming) :
    ((∀ store : Store, store.faults.unavailable = false →
        naming.rotatedIndices store = .ok (naming.rotatedOf store)) ↔ naming.HidesNone) ∧
      (naming.Legible → ∀ store : Store, store.faults.unavailable = false →
        naming.rotatedIndices store = .ok (naming.rotatedOf store)) := by
  refine ⟨⟨fun h name hrotated => ?_, fun h store => h.rotatedIndices_eq⟩,
    fun h store => h.hidesNone.rotatedIndices_eq⟩
  -- a store with nothing but an index of that name would not list it
  have hlisted := h (({} : Store).withIndex name { shards := 1, replicas := 0 }) rfl
  rw [naming.rotatedIndices_eq rfl, Except.ok.injEq] at hlisted
  have hget := congrArg (Table.get? · name) hlisted
  rw [Table.get?_filter, get?_rotatedOf, hrotated, Store.get?_withIndex_self] at hget
  cases hselects : (Pattern.ofText naming.rotatedPattern).selects name with
  | true => rfl
  | false =>
    rw [hselects] at hget
    cases hget

/-- An accepted configuration may hide all its rotated indices: a recent index called `logs_*` takes
every index of the prefix `logs` out of the listing. After the first rotation nothing is listed, so
the next one asks for the same name again and fails. -/
theorem rotatedIndices_incomplete :
    ¬ (∀ config : Config, config.validate = .ok () → ∀ store : Store,
        store.faults.unavailable = false →
          config.indexer.naming.rotatedIndices store =
            .ok (config.indexer.naming.rotatedOf store)) ∧
      ((Cluster.start [.named "logs" "logs_*"]).answer? 0 .setup = some (.ok (.index "logs_0")) ∧
        isRotated ⟨"logs", "logs_*"⟩ "logs_0" = true ∧
        rotatedNames ⟨"logs", "logs_*"⟩
          ((Cluster.start [.named "logs" "logs_*"]).run [.operation 0 .setup]).store = .ok [] ∧
        ((Cluster.start [.named "logs" "logs_*"]).run [.operation 0 .setup]).answer? 0 .cycle =
          some (.error (.indexAlreadyExists "logs_0"))) := by
  refine ⟨fun h => ?_, rfl, rfl, rfl, rfl⟩
  have hlisted := h { indexer := { indexPrefix := "logs", recentIndexName := "logs_*" } } rfl
    ((Cluster.start [.named "logs" "logs_*"]).run [.operation 0 .setup]).store rfl
  have hget := congrArg (fun listed => listed.toOption.map Table.keys) hlisted
  revert hget
  decide

end Naming

end RollingIndex
