import RollingIndex.Proofs.Ledgers
import RollingIndex.Proofs.NameSpaces
import RollingIndex.Proofs.SharedStores

/-!
# What is different after a rotation

A rotation consists of five operations on the store and may end after each of them. In a store that
can be reached it does one of two things:

* **a rotation that succeeds does one thing** (`Deployment.rotated_of_cycle`): the index with the
  next number is there, empty and with its mapping, the alias leads to it and to nothing else, and
  one entry names the old index and the new one. Everything else is as it was;
* **a rotation that fails moves nothing** (`Deployment.unmoved_of_error`): aliases and indices are
  as they were, but for one new index at most, which no alias leads to. So writes go where they went
  before.

What the first says of the aliases rests on the parts of the store fitting together: an alias that
is bound to nothing is not in the table, so what it is bound to determines its place there.
-/

namespace RollingIndex

namespace Store

variable {store : Store} {name : String} {settings : IndexSettings} {mapping : Option Json}
  {item : BulkItem}

/-- The outcome of an item is the same when an index is added under a free name, unless the item is
for that name: an alias does not lead there. -/
theorem itemResult_withIndex (h : store.Consistent) (hfree : store.Free name)
    (hne : item.index ≠ name) :
    (store.withIndex name settings mapping).itemResult item = store.itemResult item := by
  have haliases : (store.withIndex name settings mapping).aliases = store.aliases := rfl
  have hfaults : (store.withIndex name settings mapping).faults = store.faults := rfl
  rw [itemResult, itemResult, writeItem, writeItem, haliases, hfaults]
  cases htarget : store.aliases.writeTarget item.index with
  | error failure => rfl
  | ok target =>
    have hother : target ≠ name := by
      rintro rfl
      cases halias : store.aliases.contains item.index with
      | true =>
        have hexists := h.contains_of_writeTarget halias htarget
        rw [contains_eq_false_iff.mpr hfree.1] at hexists
        cases hexists
      | false =>
        rw [AliasTable.writeTarget, contains_eq_false_iff.mp halias] at htarget
        exact hne (Except.ok.inj htarget)
    dsimp only
    rw [get?_withIndex_of_ne hother]
    split
    · rfl
    · cases store.indices.get? target <;> rfl

end Store

namespace Deployment

variable {d : Deployment} {desk after : Desk} {e : Failure} {new : String}

/-! ## Rotations that succeed -/

/-- What a rotation has done that answers with the name of a new index. -/
structure Rotated (d : Deployment) (new : String) (desk after : Desk) : Prop where
  /-- neither an index nor an alias had the name of the new index -/
  free : desk.store.Free new
  /-- the name has a number, which comes next after the names listed where there is room for one
  more; where there is none it is zero -/
  numbered : ∃ names number, d.naming.rotatedNames desk.store = .ok names ∧
    new = d.naming.indexName number ∧ d.naming.indexNumber? new = some number ∧
    (d.naming.HasRoom names → d.naming.IsNext names number) ∧
    (¬ d.naming.HasRoom names → number = 0)
  /-- the new index has the shards and copies of the configuration, no store type, the mapping of
  the configuration, and no documents -/
  created : after.store.indices.get? new = some
    { settings := { shards := d.shards, replicas := d.replicas, storeType := none }
      mapping := some d.mapping
      creationOrder := desk.store.nextOrder
      documents := ∅ }
  /-- the new index is younger than every other -/
  youngest : ∀ {name : String} {index : Index}, name ≠ new →
    after.store.indices.get? name = some index → index.creationOrder < desk.store.nextOrder
  /-- every other index is as it was, with its documents -/
  others : ∀ {name : String}, name ≠ new →
    after.store.indices.get? name = desk.store.indices.get? name
  /-- the alias leads to the new index only -/
  bound : after.store.aliasTargets d.naming.writeAlias = .ok [new]
  /-- every other alias is as it was -/
  aliases : ∀ {aliasName : String}, aliasName ≠ d.naming.writeAlias →
    after.store.aliases.get? aliasName = desk.store.aliases.get? aliasName
  /-- nothing else in the store has changed -/
  rest : after.store.nextOrder = desk.store.nextOrder + 1 ∧
    after.store.nodes = desk.store.nodes ∧ after.store.trace = desk.store.trace ∧
    after.store.faults = desk.store.faults
  /-- one entry names the index that the alias led to, if it led to one, and the new one -/
  entered : ∃ old, desk.store.currentTarget d.naming.writeAlias = .ok old ∧
    d.recordAt after = d.recordAt desk ++ [rotationEntry old.index? new] ∧
    after.ledger = d.entered desk.ledger (rotationEntry old.index? new)

/-- Moving the alias leaves all others as they are, if no alias was bound to nothing. -/
theorem get?_cutover {store : Store} (h : store.Consistent) {aliasName other : String}
    (hother : other ≠ aliasName) (old : Option String) :
    (store.aliases.apply (cutoverActions aliasName new old)).get? other =
      store.aliases.get? other := by
  refine AliasTable.get?_eq_of_targets AliasTable.keys_ne_nil_of_get?_prune h.bound ?_
  refine AliasTable.targets_apply_of_forall fun index => ?_
  cases old <;> simp [cutoverActions, hother]

/-- **A rotation that succeeds does one thing.** In every store that can be reached it adds the next
index, moves the alias to it and enters that into the record; all other indices and aliases are as
they were. -/
theorem rotated_of_cycle (hreachable : desk.store.Reachable)
    (h : Effect.on d.cycle desk = (.ok new, after)) : d.Rotated new desk after := by
  have hconsistent := hreachable.consistent
  have hrotation := d.cycle_rotation desk
  rw [h] at hrotation
  obtain ⟨old, names, hold, hnames, hnew, hfree, hstore⟩ := hrotation.of_ok
  dsimp only at hstore
  have hothers : ∀ {name : String}, name ≠ new →
      after.store.indices.get? name = desk.store.indices.get? name := by
    intro name hname
    rw [hstore]
    exact Store.get?_withIndex_of_ne hname
  exact
    { free := hfree
      numbered := by
        refine ⟨names, _, hnames, hnew, ?_, Naming.isNext_nextNumber, Naming.nextNumber_eq_zero⟩
        rw [hnew]
        exact d.naming.indexNumber?_nextName names
      created := by
        rw [hstore]
        exact desk.store.get?_withIndex_self _ _ _
      youngest := fun hname hindex => hconsistent.order_lt ((hothers hname).symm.trans hindex)
      others := hothers
      bound := by
        -- the store has answered with a listing, so it can be reached
        have hreached : after.store.faults.unavailable = false := by
          rw [hstore]
          show desk.store.faults.unavailable = false
          exact Naming.reached_of_rotatedNames hnames
        rw [Store.aliasTargets, Store.available, hreached, hrotation.targets_of_ok]
        rfl
      aliases := fun hother => by
        rw [hstore]
        exact get?_cutover hconsistent hother old.index?
      rest := by
        rw [hstore]
        exact ⟨rfl, rfl, rfl, rfl⟩
      entered := by
        obtain ⟨found, before, hfound, hquiet, hrecord⟩ := entry_of_cycle_ok h
        exact ⟨found, hfound, entered_of_record hquiet hrecord⟩ }

/-- A store in which the alias of `a` is bound to an index of another deployment, and three names
begin like those of `a`: one with leading zeros, one with a sign and one without a number. -/
def crowdedStore : Store :=
  .run [.operation (.create "a_007" { shards := 1, replicas := 0 }),
    .operation (.create "a_+12" { shards := 1, replicas := 0 }),
    .operation (.create "a_x" { shards := 1, replicas := 0 }),
    .operation (.create "b_3" { shards := 1, replicas := 0 }),
    .operation (.updateAliases [.add "b_3" "a_deflector", .add "a_x" "other"]),
    .operation (.bulk { items := [{ index := "a_deflector", id := "x", source := .null }] })]

/-- The rotation passes over the number behind the sign, takes the alias off the foreign index and
leaves that index its document. -/
theorem rotated_of_cycle_crowded :
    (Effect.on (named "a" "recent").cycle { store := crowdedStore }).1 = .ok "a_13" ∧
      (named "a" "recent").Rotated "a_13" { store := crowdedStore }
        (Effect.on (named "a" "recent").cycle { store := crowdedStore }).2 ∧
      (Effect.on (named "a" "recent").cycle { store := crowdedStore }).2.store.document? "b_3" "x" =
        some { source := .null, ttlMinutes := none } ∧
      (named "a" "recent").recordAt
          (Effect.on (named "a" "recent").cycle { store := crowdedStore }).2 =
        [{ source := "deflector", message := "Cycled deflector from <b_3> to <a_13>" }] := by
  have hcycle : (Effect.on (named "a" "recent").cycle { store := crowdedStore }).1 =
      .ok "a_13" := rfl
  exact ⟨hcycle, rotated_of_cycle (.run _) (Prod.ext hcycle rfl), rfl, rfl⟩

/-! ## Rotations that fail -/

/-- What is left of a store by a rotation that fails for some reason. -/
structure Unmoved (d : Deployment) (e : Failure) (store after : Store) : Prop where
  /-- the table of aliases is as it was -/
  aliases : after.aliases = store.aliases
  /-- every index that was there is as it was, with its documents -/
  kept : ∀ {name : String} {index : Index}, store.indices.get? name = some index →
    after.indices.get? name = some index
  /-- an index that was not there has the one name that the rotation had picked; it has no documents
  and no other mapping than the one of the configuration, and no alias leads to it -/
  added : ∀ {name : String} {index : Index}, store.indices.get? name = none →
    after.indices.get? name = some index →
      (∃ names, d.naming.rotatedNames store = .ok names ∧ name = d.naming.nextName names) ∧
      (index.mapping = none ∨ index.mapping = some d.mapping) ∧
      index.settings = d.rotatedSettings ∧ index.creationOrder = store.nextOrder ∧
      index.documents = ∅ ∧ ∀ aliasName, name ∉ after.aliases.targets aliasName
  /-- nothing at all has changed, unless the store did not confirm a step -/
  untouched : (∀ step name, e ≠ .notAcknowledged step name) → after = store
  /-- nothing else in the store has changed -/
  rest : after.nodes = store.nodes ∧ after.trace = store.trace ∧ after.faults = store.faults
  /-- a request for the alias of the deployment, for indices that were there and for other aliases
  is answered as before, and does to these indices what it would have done -/
  writes : ∀ request : BulkRequest,
    (∀ item ∈ request.items, item.index = d.naming.writeAlias ∨ ¬ store.Free item.index) →
      (Effect.on (Store.bulk request) after).1 = (Effect.on (Store.bulk request) store).1 ∧
        ∀ {name : String}, store.indices.contains name = true →
          (Effect.on (Store.bulk request) after).2.indices.get? name =
            (Effect.on (Store.bulk request) store).2.indices.get? name

theorem Unmoved.refl (d : Deployment) (e : Failure) (store : Store) : d.Unmoved e store store where
  aliases := rfl
  kept h := h
  added hnone hsome := by
    rw [hnone] at hsome
    cases hsome
  untouched _ := rfl
  rest := ⟨rfl, rfl, rfl⟩
  writes _ _ := ⟨rfl, fun _ => rfl⟩

/-- A rotation that fails leaves all that was there as it was. -/
theorem Rotation.unmoved {store after : Store} (hconsistent : store.Consistent)
    (h : d.Rotation store (.error e) after) : d.Unmoved e store after := by
  cases h with
  | refused => exact .refl d e store
  | stranded names step mapping hnames hfree hmapping =>
    have hne : ∀ {name : String}, store.indices.contains name = true →
        name ≠ d.naming.nextName names := by
      rintro name hexists rfl
      rw [Store.contains_eq_false_iff.mpr hfree.1] at hexists
      cases hexists
    exact
      { aliases := rfl
        kept := fun hindex =>
          (Store.get?_withIndex_of_ne (hne (Table.contains_eq_true_iff.mpr ⟨_, hindex⟩))).trans
            hindex
        added := by
          intro name index hnone hsome
          rw [Store.withIndex, Table.get?_insert] at hsome
          split at hsome
          · rename_i hname
            cases hsome
            -- what an alias leads to existed before
            exact ⟨⟨names, hnames, hname⟩, hmapping, rfl, rfl, rfl, fun aliasName hbound =>
              hne (hconsistent.exists_target hbound) hname⟩
          · rw [hnone] at hsome
            cases hsome
        untouched := fun hconfirmed => absurd rfl (hconfirmed _ _)
        rest := ⟨rfl, rfl, rfl⟩
        writes := by
          intro request hitems
          have hfaults : (store.withIndex (d.naming.nextName names) d.rotatedSettings
              mapping).faults = store.faults := rfl
          obtain ⟨hanswer, hindices⟩ := Store.bulk_congr hfaults fun item hitem =>
            Store.itemResult_withIndex hconsistent hfree (by
              rcases hitems item hitem with halias | htaken
              · rw [halias]
                exact (d.naming.indexName_ne_writeAlias _).symm
              · rintro heq
                exact htaken (heq ▸ hfree))
          exact ⟨hanswer, fun hexists => hindices (Store.get?_withIndex_of_ne (hne hexists))⟩ }

/-- A rotation that fails leaves the store so and makes one entry. -/
theorem cycle_error (hconsistent : desk.store.Consistent)
    (h : Effect.on d.cycle desk = (.error e, after)) :
    d.Unmoved e desk.store after.store ∧ after.ledger.ranges = desk.ledger.ranges ∧
      d.recordAt after = d.recordAt desk ++ [d.rotationFailureEntry e] := by
  have hrotation := d.cycle_rotation desk
  rw [h] at hrotation
  obtain ⟨before, hquiet, hrecord⟩ := entry_of_cycle_error h
  obtain ⟨hentry, hledger⟩ := entered_of_record hquiet hrecord
  exact ⟨hrotation.unmoved hconsistent, by rw [hledger, ranges_entered], hentry⟩

/-- Setting up fails where what the alias leads to cannot be told, and then nothing is done, or it
fails like the rotation that it comes to. -/
theorem setup_error (hconsistent : desk.store.Consistent)
    (h : Effect.on d.setup desk = (.error e, after)) :
    d.Unmoved e desk.store after.store ∧ after.ledger.ranges = desk.ledger.ranges ∧
      d.recordAt after = d.recordAt desk ++
        match desk.store.currentTarget d.naming.writeAlias with
        | .ok _ => [d.rotationFailureEntry e]
        | .error _ => [] := by
  simp only [setup, Effect.on_bind, Action.on_ask] at h
  cases htarget : desk.store.currentTarget d.naming.writeAlias with
  | error e' =>
    rw [htarget] at h
    cases h
    exact ⟨.refl d e desk.store, rfl, (List.append_nil _).symm⟩
  | ok target =>
    rw [htarget] at h
    cases target with
    | bound index =>
      simp only [Effect.on_bind, Action.on_log, Effect.on_pure] at h
      cases h
    | unbound =>
      simp only [Effect.on_bind] at h
      obtain ⟨logged, hlog⟩ : ∃ logged, Effect.on (Action.log .info
          ("Deflector <" ++ d.naming.writeAlias ++ "> is not bound yet, cycling")) desk =
            (.ok (), logged) := ⟨_, Action.on_log ..⟩
      have hquiet := (Action.Quiet.log _ _).nothingEntered hlog
      have hstore : logged.store = desk.store := by
        rw [Action.on_log] at hlog
        cases hlog
        rfl
      rw [hlog] at h
      obtain ⟨hunmoved, hranges, hentry⟩ := cycle_error (hstore ▸ hconsistent) h
      rw [hstore] at hunmoved
      rw [hquiet.1] at hranges
      rw [d.recordAt_of_nothingEntered hquiet] at hentry
      exact ⟨hunmoved, hranges, hentry⟩

/-- **A rotation that fails moves nothing.** In every store that can be reached, whatever faults are
switched on, a failed rotation and a failed setup leave all aliases and indices as they were, but
for one new index at most, and so writes go where they went before. A failed rotation makes one
entry about its failure, and a failed setup makes it if it came to a rotation. -/
theorem unmoved_of_error (hreachable : desk.store.Reachable)
    (h : Effect.on d.cycle desk = (.error e, after) ∨
      Effect.on d.setup desk = (.error e, after)) :
    d.Unmoved e desk.store after.store ∧ after.ledger.ranges = desk.ledger.ranges ∧
      (Effect.on d.cycle desk = (.error e, after) →
        d.recordAt after = d.recordAt desk ++
          [{ source := "deflector",
             message := "Cycling deflector <" ++ d.naming.writeAlias ++ "> failed: " ++
               e.message }]) ∧
      (Effect.on d.setup desk = (.error e, after) →
        d.recordAt after = d.recordAt desk ++
          match desk.store.currentTarget d.naming.writeAlias with
          | .ok _ =>
            [{ source := "deflector",
               message := "Cycling deflector <" ++ d.naming.writeAlias ++ "> failed: " ++
                 e.message }]
          | .error _ => []) := by
  have hconsistent := hreachable.consistent
  have hstore : d.Unmoved e desk.store after.store ∧ after.ledger.ranges = desk.ledger.ranges := by
    rcases h with hcycle | hsetup
    · obtain ⟨hunmoved, hranges, -⟩ := cycle_error hconsistent hcycle
      exact ⟨hunmoved, hranges⟩
    · obtain ⟨hunmoved, hranges, -⟩ := setup_error hconsistent hsetup
      exact ⟨hunmoved, hranges⟩
  exact ⟨hstore.1, hstore.2, fun hcycle => (cycle_error hconsistent hcycle).2.2,
    fun hsetup => (setup_error hconsistent hsetup).2.2⟩

/-- The crowded store, no longer confirming changes of aliases. -/
def unconfirmingStore : Store := crowdedStore.step (.fault (.acknowledgeAliases false))

/-- A rotation whose last step is not confirmed leaves its index behind, with the mapping, and the
alias where it was, and says so in the record. -/
theorem unmoved_of_error_unconfirmed :
    (Effect.on (named "a" "recent").cycle { store := unconfirmingStore }).1 =
        .error (.notAcknowledged "update_aliases" "a_13") ∧
      (named "a" "recent").Unmoved (.notAcknowledged "update_aliases" "a_13") unconfirmingStore
        (Effect.on (named "a" "recent").cycle { store := unconfirmingStore }).2.store ∧
      (Effect.on (named "a" "recent").cycle
        { store := unconfirmingStore }).2.store.aliases.targets "a_deflector" = ["b_3"] ∧
      (Effect.on (named "a" "recent").cycle
        { store := unconfirmingStore }).2.store.indices.contains "a_13" = true ∧
      (named "a" "recent").recordAt
          (Effect.on (named "a" "recent").cycle { store := unconfirmingStore }).2 =
        [{ source := "deflector",
           message := "Cycling deflector <a_deflector> failed: " ++
             "update_aliases on <a_13> was not acknowledged by the store" }] := by
  have hcycle : (Effect.on (named "a" "recent").cycle { store := unconfirmingStore }).1 =
      .error (.notAcknowledged "update_aliases" "a_13") := rfl
  have hfailed : Effect.on (named "a" "recent").cycle { store := unconfirmingStore } =
      (.error (.notAcknowledged "update_aliases" "a_13"),
        (Effect.on (named "a" "recent").cycle { store := unconfirmingStore }).2) :=
    Prod.ext hcycle rfl
  obtain ⟨hunmoved, -, hrecord, -⟩ := unmoved_of_error
    (.step (.fault (.acknowledgeAliases false)) (.run _)) (.inl hfailed)
  exact ⟨hcycle, hunmoved, rfl, rfl, hrecord hfailed⟩

end Deployment

end RollingIndex
