import RollingIndex.Proofs.AliasSafety
import RollingIndex.Proofs.Configurations
import RollingIndex.Proofs.Listings

/-!
# The numbers of rotations

Every rotation looks for the greatest number in the store and takes the next one, and what is in the
store changes all the time: sweeps delete indices, and rotations that fail leave indices behind,
whose numbers are given out again once they are swept. What never goes back is the number of the
index that the alias leads to. That index exists and is listed at the next rotation
(`Naming.lt_nextNumber_of_contains`), so **successive rotations under one prefix answer with greater
and greater numbers** (`Cluster.rotations_increase`), whichever deployments with that prefix
rotate, as long as there are numbers left.
-/

namespace RollingIndex

/-- Names of rotated indices depend on the stem only. -/
theorem Naming.indexName_eq_of_stem {p q : Naming} (h : p.stem = q.stem) (n : Nat) :
    p.indexName n = q.indexName n := by
  rw [indexName, indexName, h]

namespace Cluster

variable {cluster : Cluster} {naming : Naming} {event : Event}

/-! ## The rotations of a run -/

/-- The index that a rotation answers with, if the event is a rotation under the stem and
succeeds. -/
def rotated? (cluster : Cluster) (stem : String) : Event → Option String
  | .fault _ => none
  | .operation member operation =>
    match cluster.deployments[member]? with
    | none => none
    | some d =>
      if d.naming.stem = stem ∧ d.rotates cluster.store operation = true then
        match cluster.answer? member operation with
        | some (.ok (.index name)) => some name
        | _ => none
      else none

/-- The indices that the successful rotations of a run under a stem answer with, in order. -/
def rotations (cluster : Cluster) (stem : String) : List Event → List String
  | [] => []
  | event :: events =>
    (cluster.rotated? stem event).toList ++ (cluster.step event).rotations stem events

/-- The deployments with that stem are accepted, and the patterns read their settings as they
stand. -/
def WellNamed (cluster : Cluster) (stem : String) : Prop :=
  ∀ d ∈ cluster.deployments, d.naming.stem = stem → d.Accepted ∧ d.naming.Literal

/-! ## One event -/

/-- An operation that rotates answers like a rotation and does the same to the store. -/
theorem rotation_step {member : Nat} {operation : Operation} {d : Deployment}
    (hd : cluster.deployments[member]? = some d)
    (hrotates : d.rotates cluster.store operation = true) :
    ∃ result, cluster.answer? member operation = some (result.map .index) ∧
      d.Rotation cluster.store result (cluster.step (.operation member operation)).store := by
  obtain ⟨m, hm, rfl⟩ := exists_member hd
  obtain ⟨result, hanswer, hrotation⟩ :=
    m.deployment.perform_rotation (cluster.desk m) hrotates
  refine ⟨result, ?_, ?_⟩
  · rw [answer?_of_member hm, ← hanswer]
  · rw [store_step_of_member hm]
    exact hrotation

/-- An operation that is no rotation under a prefix leaves the alias of that prefix alone. -/
theorem targets_step_of_not_rotates {member : Nat} {operation : Operation}
    (hsafe : cluster.store.WellAliased)
    (h : ∀ d, cluster.deployments[member]? = some d →
      ¬ (d.naming.stem = naming.stem ∧ d.rotates cluster.store operation = true)) :
    (cluster.step (.operation member operation)).store.aliases.targets naming.writeAlias =
      cluster.store.aliases.targets naming.writeAlias := by
  have hstep := cluster.step_store (.operation member operation)
  generalize (cluster.step (.operation member operation)).store = after at hstep
  cases hstep with
  | absent => rfl
  | performed _ _ d _ _ hd _ htransition =>
    rcases hsafe.targets_transition htransition naming.writeAlias with
      hsame | ⟨names, hrotates, halias, -⟩
    · exact hsame
    · exact absurd ⟨(Naming.writeAlias_inj.mp halias).symm, hrotates⟩ (h d hd)

/-- **What an event does to the alias of a prefix.** The alias stays, or the event is a rotation and
the alias is moved to the index that it answers with; the number of that index fits 64 bits and is
greater than the number of any index that the alias led to. -/
theorem targets_step (hsafe : cluster.store.WellAliased) (hroom : cluster.hasRoom event = true)
    (hnamed : cluster.WellNamed naming.stem) :
    cluster.rotated? naming.stem event = none ∧
        (cluster.step event).store.aliases.targets naming.writeAlias =
          cluster.store.aliases.targets naming.writeAlias ∨
      ∃ n, cluster.rotated? naming.stem event = some (naming.indexName n) ∧ n < powerOfTwo 64 ∧
        (∀ m, naming.indexName m ∈ cluster.store.aliases.targets naming.writeAlias →
          m < powerOfTwo 64 → m < n) ∧
        (cluster.step event).store.aliases.targets naming.writeAlias = [naming.indexName n] := by
  cases event with
  | fault fault => exact .inl ⟨rfl, rfl⟩
  | operation member operation =>
    by_cases h : ∃ d, cluster.deployments[member]? = some d ∧ d.naming.stem = naming.stem ∧
        d.rotates cluster.store operation = true
    · obtain ⟨d, hd, hstem, hrotates⟩ := h
      obtain ⟨result, hanswer, hrotation⟩ := rotation_step hd hrotates
      have hrotated : cluster.rotated? naming.stem (.operation member operation) =
          result.toOption := by
        rw [rotated?, hd]
        dsimp only
        rw [if_pos ⟨hstem, hrotates⟩, hanswer]
        cases result <;> rfl
      rw [hrotated]
      generalize (cluster.step (.operation member operation)).store = after at hrotation ⊢
      cases hrotation with
      | refused e => exact .inl ⟨rfl, rfl⟩
      | stranded names step mapping => exact .inl ⟨rfl, rfl⟩
      | moved old names hold hnames =>
        obtain ⟨haccepted, hliteral⟩ := hnamed d (List.mem_of_getElem? hd) hstem
        have hnew : d.naming.nextName names = naming.indexName (d.naming.nextNumber names) :=
          Naming.indexName_eq_of_stem hstem _
        refine .inr ⟨d.naming.nextNumber names, congrArg some hnew, d.naming.nextNumber_lt names,
          fun m htarget hfits => ?_, ?_⟩
        -- what the alias led to is in the store, so its number was counted
        · rw [← Naming.indexName_eq_of_stem hstem] at htarget
          exact Naming.lt_nextNumber_of_contains hliteral haccepted.indexNumber?_recentIndex hnames
            (hasRoom_rotatedNames hroom hd hrotates hnames) (hsafe.exists_target htarget)
            (d.naming.indexNumber?_indexName hfits)
        · rw [← hnew]
          exact (Deployment.targets_cutover (Store.targets_of_currentTarget hold)
            (d.naming.nextName names) naming.writeAlias).trans
            (if_pos (Naming.writeAlias_inj.mpr hstem.symm))
    · refine .inl ⟨?_, targets_step_of_not_rotates hsafe fun d hd hrotates => h ⟨d, hd, hrotates⟩⟩
      rw [rotated?]
      split
      · rfl
      · rename_i d hd
        exact if_neg fun hrotates => h ⟨d, hd, hrotates⟩

/-! ## Runs -/

/-- The rotations of a run answer with ascending numbers, all of them greater than the number that
the alias led to before, and after the run the alias leads to the last of them. -/
theorem rotations_eq_map (hsafe : cluster.store.WellAliased)
    (hnamed : cluster.WellNamed naming.stem) {events : List Event}
    (hroom : cluster.hasRoomThroughout events = true) :
    ∃ numbers : List Nat, cluster.rotations naming.stem events = numbers.map naming.indexName ∧
      (∀ n ∈ numbers, n < powerOfTwo 64 ∧
        ∀ m, naming.indexName m ∈ cluster.store.aliases.targets naming.writeAlias →
          m < powerOfTwo 64 → m < n) ∧
      numbers.Pairwise (· < ·) ∧
      (cluster.run events).store.aliases.targets naming.writeAlias =
        (numbers.getLast?.map fun n => [naming.indexName n]).getD
          (cluster.store.aliases.targets naming.writeAlias) := by
  induction events generalizing cluster with
  | nil => exact ⟨[], rfl, by simp, .nil, rfl⟩
  | cons event events ih =>
    rw [hasRoomThroughout, Bool.and_eq_true] at hroom
    obtain ⟨numbers, hnumbers, hgreater, hascending, hlast⟩ :=
      ih (wellAliased_step hsafe event) (by rw [WellNamed, deployments_step]; exact hnamed)
        hroom.2
    rw [rotations, hnumbers]
    rcases targets_step hsafe hroom.1 hnamed with ⟨hnone, hsame⟩ | ⟨n, hsome, hfits, hless, hnew⟩
    · rw [hnone]
      rw [hsame] at hgreater hlast
      exact ⟨numbers, rfl, hgreater, hascending, hlast⟩
    · rw [hsome]
      -- the alias leads to `n` now, so all later numbers are greater than `n`
      have hlater : ∀ m ∈ numbers, n < m := fun m hm =>
        (hgreater m hm).2 n (hnew ▸ List.mem_singleton_self _) hfits
      refine ⟨n :: numbers, rfl, ?_, List.pairwise_cons.mpr ⟨hlater, hascending⟩, ?_⟩
      · intro m hm
        rcases List.mem_cons.mp hm with rfl | hm
        · exact ⟨hfits, hless⟩
        · exact ⟨(hgreater m hm).1, fun k hk hkfits =>
            Nat.lt_trans (hless k hk hkfits) (hlater m hm)⟩
      · refine hlast.trans ?_
        rw [hnew, List.getLast?_cons]
        cases numbers.getLast? <;> rfl

/-- **The numbers of successive rotations strictly increase** in every run of any deployments with a
store that was empty, under any faults, as long as there is room for the next number at each
rotation. The deployments with the prefix have to be accepted and their settings to be read by
patterns as they stand; there may be several of them, and they count together. Each rotation that
succeeds answers with the name of a number, which is read back from it, and each of these numbers is
greater than all before. After the run the alias leads to the last of them. -/
theorem rotations_increase (ds : List Deployment) (naming : Naming) (events : List Event)
    (hnamed : ∀ d ∈ ds, d.naming.stem = naming.stem → d.Accepted ∧ d.naming.Literal)
    (hroom : (start ds).hasRoomThroughout events = true) :
    ∃ numbers : List Nat,
      (start ds).rotations naming.stem events = numbers.map naming.indexName ∧
      ((start ds).rotations naming.stem events).map naming.indexNumber? = numbers.map some ∧
      numbers.Pairwise (· < ·) ∧
      ((start ds).run events).store.aliases.targets naming.writeAlias =
        (numbers.getLast?.map naming.indexName).toList := by
  obtain ⟨numbers, hnumbers, hfits, hascending, hlast⟩ :=
    rotations_eq_map Store.wellAliased_empty (by rw [WellNamed, deployments_start]; exact hnamed)
      hroom
  refine ⟨numbers, hnumbers, ?_, hascending, ?_⟩
  · rw [hnumbers, List.map_map]
    exact List.map_congr_left fun n hn => naming.indexNumber?_indexName (hfits n hn).1
  · rw [hlast]
    cases numbers.getLast? <;> rfl

/-- Two deployments with one prefix: the number of the index that a failed rotation of the one
leaves behind is passed over by the next rotation of the other. -/
theorem rotations_increase_shared_prefix :
    (∀ d ∈ [Deployment.named "a" "recent", .named "a" "other"],
        d.naming.stem = Naming.stem ⟨"a", "recent"⟩ → d.Accepted ∧ d.naming.Literal) ∧
      (start [.named "a" "recent", .named "a" "other"]).hasRoomThroughout
        [.operation 0 .setup, .fault (.acknowledgeAliases false), .operation 0 .cycle,
          .fault (.acknowledgeAliases true), .operation 1 .cycle] = true ∧
      (start [.named "a" "recent", .named "a" "other"]).rotations "a"
        [.operation 0 .setup, .fault (.acknowledgeAliases false), .operation 0 .cycle,
          .fault (.acknowledgeAliases true), .operation 1 .cycle] = ["a_0", "a_2"] ∧
      ∃ numbers : List Nat,
        ["a_0", "a_2"].map (Naming.indexNumber? ⟨"a", "recent"⟩) = numbers.map some ∧
          numbers.Pairwise (· < ·) := by
  have hnamed : ∀ d ∈ [Deployment.named "a" "recent", .named "a" "other"],
      d.naming.stem = Naming.stem ⟨"a", "recent"⟩ → d.Accepted ∧ d.naming.Literal := by
    simp only [List.forall_mem_cons, List.not_mem_nil, false_implies, implies_true, and_true]
    exact ⟨fun _ => ⟨.named rfl, by decide⟩, fun _ => ⟨.named rfl, by decide⟩⟩
  have hroom : (start [.named "a" "recent", .named "a" "other"]).hasRoomThroughout
      [.operation 0 .setup, .fault (.acknowledgeAliases false), .operation 0 .cycle,
        .fault (.acknowledgeAliases true), .operation 1 .cycle] = true := by decide
  have hrotations : (start [.named "a" "recent", .named "a" "other"]).rotations "a"
      [.operation 0 .setup, .fault (.acknowledgeAliases false), .operation 0 .cycle,
        .fault (.acknowledgeAliases true), .operation 1 .cycle] = ["a_0", "a_2"] := by decide
  obtain ⟨numbers, -, hnumbers, hascending, -⟩ :=
    rotations_increase _ ⟨"a", "recent"⟩ _ hnamed hroom
  exact ⟨hnamed, hroom, hrotations, numbers, hrotations ▸ hnumbers, hascending⟩

end Cluster

end RollingIndex
