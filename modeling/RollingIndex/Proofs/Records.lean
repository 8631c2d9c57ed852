import RollingIndex.Proofs.AliasSafety
import RollingIndex.Proofs.Retention

/-!
# The record tells what happened

Rotations and sweeps enter what they do into the record of their deployment, and they do it at other
places than where they change the store. All the same the entries of an operation tell what it did,
however it ends (`Deployment.Tells`): a rotation is entered exactly if the alias was moved, with the
index that it led to before and the one that it leads to now; and the deletion of an index is
entered, and no failure of it, exactly if the index was there and is gone.

The operations of other deployments make no entry, and where no other deployment has the prefix they
do not move the alias and delete none of the indices. So **the record is the history of the alias
and of the indices** (`Cluster.record_tells_history`): the entries about rotations form a chain that
ends with the index that the alias leads to.
-/

namespace RollingIndex

/-! ## Entries -/

/-- The entry made before an index is deleted. -/
def deletionEntry (name : String) : Activity where
  source := "retention"
  message := "Retention cleaning: Deleting index <" ++ name ++ ">"

/-- The entry about an index that could not be deleted. -/
def deletionFailureEntry (name : String) (e : Failure) : Activity where
  source := "retention"
  message := "Retention cleaning: Failed to delete index <" ++ name ++ ">: " ++ e.message

/-- Whether an entry is about a rotation that moved the alias. -/
def Activity.isRotation (entry : Activity) : Bool :=
  entry.source == "deflector" &&
    ("Initialized deflector".toList.isPrefixOf entry.message.toList ||
      "Cycled deflector".toList.isPrefixOf entry.message.toList)

/-- The entries about rotations that moved the alias to one index after the other. -/
def rotationChain : Option String → List String → List Activity
  | _, [] => []
  | old, new :: targets =>
    Deployment.rotationEntry old new :: rotationChain (some new) targets

/-- The entries tell of the deletion of an index and of no failure of it. -/
def TellDeletion (entries : List Activity) (name : String) : Prop :=
  deletionEntry name ∈ entries ∧ ∀ e, deletionFailureEntry name e ∉ entries

@[simp] theorem isRotation_rotationEntry (old : Option String) (new : String) :
    (Deployment.rotationEntry old new).isRotation = true := by
  unfold Activity.isRotation Deployment.rotationEntry
  cases old with
  | none =>
    simp only [String.toList_append]
    rfl
  | some old =>
    simp only [String.toList_append]
    rfl

/-- The entry about a rotation that failed is not one about a rotation that moved the alias. -/
@[simp] theorem isRotation_rotationFailureEntry (d : Deployment) (e : Failure) :
    (d.rotationFailureEntry e).isRotation = false := by
  unfold Activity.isRotation Deployment.rotationFailureEntry
  simp only [String.toList_append]
  rfl

/-- What a sweep enters is not about rotations. -/
theorem filter_isRotation_sweep (messages : List String) :
    (messages.map Deployment.sweepEntry).filter Activity.isRotation = [] := by
  refine List.filter_eq_nil_iff.mpr fun entry hentry => ?_
  obtain ⟨message, -, rfl⟩ := List.mem_map.mp hentry
  rw [Activity.isRotation, Deployment.sweepEntry]
  exact Bool.false_ne_true

/-- One more rotation makes the chain longer. -/
theorem rotationChain_concat (old : Option String) (targets : List String) (new : String) :
    rotationChain old (targets ++ [new]) =
      rotationChain old targets ++ [Deployment.rotationEntry (targets.getLast?.or old) new] := by
  induction targets generalizing old with
  | nil => rfl
  | cons target targets ih =>
    rw [List.cons_append, rotationChain, ih, rotationChain, List.cons_append]
    rw [List.getLast?_cons]
    cases targets.getLast? <;> rfl

/-! ## The names in the messages of a sweep -/

/-- Texts that differ in one place are different. -/
theorem ne_of_getElem?_ne {text text' : String} (k : Nat)
    (h : text.toList[k]? ≠ text'.toList[k]?) : text ≠ text' := fun heq => h (heq ▸ rfl)

/-- The text before the first mark is determined. -/
theorem eq_of_append_mark {mark : Char} {text text' rest rest' : List Char} (htext : mark ∉ text)
    (htext' : mark ∉ text') (h : text ++ mark :: rest = text' ++ mark :: rest') : text = text' := by
  have hfirst : ∀ (text rest : List Char), mark ∉ text →
      (text ++ mark :: rest).takeWhile (· != mark) = text := by
    intro text rest htext
    have hbefore : ∀ c ∈ text, (c != mark) = true := fun c hc =>
      bne_iff_ne.mpr fun heq : c = mark => htext (heq ▸ hc)
    rw [List.takeWhile_append_of_pos hbefore, List.takeWhile_cons_of_neg (by simp),
      List.append_nil]
  rw [← hfirst text rest htext, h, hfirst text' rest' htext']

/-- The name of a rotated index ends with a text in which no `>` is. -/
theorem Naming.exists_text_of_isRotated {naming : Naming} {name : String}
    (h : naming.isRotated name = true) :
    ∃ text, name.toList = naming.stem.toList ++ '_' :: text ∧ '>' ∉ text := by
  rw [isRotated, Bool.and_eq_true, Option.isSome_iff_exists] at h
  obtain ⟨-, n, hn⟩ := h
  obtain ⟨text, hname, hread⟩ := indexNumber?_eq_some_iff.mp hn
  refine ⟨text, hname, fun hmem => ?_⟩
  rcases (readNumber?_eq_some hread).2.1 _ hmem with hplus | hdigit
  · cases hplus
  · cases hdigit

namespace Deployment

variable {d : Deployment} {name name' : String} {e e' : Failure}

theorem deletingMessage_inj : deletingMessage name = deletingMessage name' ↔ name = name' := by
  refine ⟨fun h => ?_, congrArg deletingMessage⟩
  exact (String.append_right_inj _).mp ((String.append_left_inj _).mp h)

theorem deletingMessage_ne_deleteFailedMessage :
    deletingMessage name ≠ deleteFailedMessage name' e := by
  refine ne_of_getElem?_ne 20 ?_
  unfold deletingMessage deleteFailedMessage
  simp only [String.toList_append]
  exact fun hchar => by cases hchar

theorem exceededMessage_ne_deletingMessage {count limit : Nat} :
    exceededMessage count limit ≠ deletingMessage name := by
  refine ne_of_getElem?_ne 0 ?_
  unfold exceededMessage deletingMessage
  simp only [String.toList_append]
  exact fun hchar => by cases hchar

theorem exceededMessage_ne_deleteFailedMessage {count limit : Nat} :
    exceededMessage count limit ≠ deleteFailedMessage name e := by
  refine ne_of_getElem?_ne 0 ?_
  unfold exceededMessage deleteFailedMessage
  simp only [String.toList_append]
  exact fun hchar => by cases hchar

/-- A failure names one index, for no number has the character that ends the name. -/
theorem eq_of_deleteFailedMessage (hname : d.naming.isRotated name = true)
    (hname' : d.naming.isRotated name' = true)
    (h : deleteFailedMessage name e = deleteFailedMessage name' e') : name = name' := by
  obtain ⟨text, htext, hmark⟩ := Naming.exists_text_of_isRotated hname
  obtain ⟨text', htext', hmark'⟩ := Naming.exists_text_of_isRotated hname'
  have hlist := congrArg String.toList h
  unfold deleteFailedMessage at hlist
  simp only [String.toList_append, htext, htext', List.append_assoc, List.append_cancel_left_eq,
    List.cons_append, List.cons.injEq, true_and] at hlist
  have heq : text = text' := eq_of_append_mark hmark hmark' hlist
  exact String.toList_inj.mp (by rw [htext, htext', heq])

/-! ## What a sweep enters -/

variable {current : String} {failing : NameSet} {names : List String} {listed : Table IndexStats}
  {desk after : Desk} {store : Store}

theorem mem_sweepMessages_iff {message : String} :
    message ∈ sweepMessages current failing name ↔
      name ≠ current ∧ message = deletingMessage name ∨
        sweepFate current failing name = .failed ∧
          message = deleteFailedMessage name (Store.deletionTimedOut name) := by
  rw [sweepMessages]
  cases hfate : sweepFate current failing name with
  | deleted => simp [(sweepFate_eq_deleted_iff.mp hfate).1]
  | skipped => simp [sweepFate_eq_skipped_iff.mp hfate]
  | failed => simp [(sweepFate_eq_failed_iff.mp hfate).1]

/-- A deletion is announced for each index picked but the one that the alias leads to. -/
theorem deletingMessage_mem_iff :
    deletingMessage name ∈ d.sweepRecord current failing listed ↔
      name ∈ d.picked listed ∧ name ≠ current := by
  have hpicked : deletingMessage name ∈
      (d.picked listed).flatMap (sweepMessages current failing) ↔
        name ∈ d.picked listed ∧ name ≠ current := by
    rw [List.mem_flatMap]
    constructor
    · rintro ⟨other, hother, hmessage⟩
      rcases mem_sweepMessages_iff.mp hmessage with ⟨hne, heq⟩ | ⟨-, heq⟩
      · rw [deletingMessage_inj.mp heq]
        exact ⟨hother, hne⟩
      · exact absurd heq deletingMessage_ne_deleteFailedMessage
    · exact fun ⟨hname, hne⟩ => ⟨name, hname, mem_sweepMessages_iff.mpr (.inl ⟨hne, rfl⟩)⟩
  rw [sweepRecord]
  split
  · rename_i hfew
    simp [picked_eq_nil hfew]
  · rw [List.mem_cons, hpicked, or_iff_right exceededMessage_ne_deletingMessage.symm]

/-- A failure is entered for each index picked whose deletion fails. -/
theorem deleteFailedMessage_mem_iff (hlisted : d.naming.rotatedIndices store = .ok listed)
    (hname : d.naming.isRotated name = true) :
    (∃ e, deleteFailedMessage name e ∈ d.sweepRecord current failing listed) ↔
      name ∈ d.picked listed ∧ sweepFate current failing name = .failed := by
  have hpicked : (∃ e, deleteFailedMessage name e ∈
      (d.picked listed).flatMap (sweepMessages current failing)) ↔
        name ∈ d.picked listed ∧ sweepFate current failing name = .failed := by
    constructor
    · rintro ⟨e, hmem⟩
      obtain ⟨other, hother, hmessage⟩ := List.mem_flatMap.mp hmem
      rcases mem_sweepMessages_iff.mp hmessage with ⟨-, heq⟩ | ⟨hfate, heq⟩
      · exact absurd heq.symm deletingMessage_ne_deleteFailedMessage
      · rw [eq_of_deleteFailedMessage hname (of_mem_picked hlisted hother).1 heq]
        exact ⟨hother, hfate⟩
    · exact fun ⟨hname, hfate⟩ => ⟨_, List.mem_flatMap.mpr
        ⟨name, hname, mem_sweepMessages_iff.mpr (.inr ⟨hfate, rfl⟩)⟩⟩
  rw [sweepRecord]
  split
  · rename_i hfew
    simp [picked_eq_nil hfew]
  · rw [← hpicked]
    refine exists_congr fun e => ?_
    rw [List.mem_cons, or_iff_right exceededMessage_ne_deleteFailedMessage.symm]

theorem deletionEntry_eq (name : String) :
    deletionEntry name = sweepEntry (deletingMessage name) := rfl

theorem deletionFailureEntry_eq (name : String) (e : Failure) :
    deletionFailureEntry name e = sweepEntry (deleteFailedMessage name e) := rfl

/-- **A sweep tells of the deletions of the indices that it deletes**, and of no others. -/
theorem tellDeletion_sweep_iff (hlisted : d.naming.rotatedIndices store = .ok listed) :
    TellDeletion ((d.sweepRecord current failing listed).map sweepEntry) name ↔
      name ∈ withFate current failing .deleted (d.picked listed) := by
  have hentry : ∀ message, sweepEntry message ∈
      (d.sweepRecord current failing listed).map sweepEntry ↔
        message ∈ d.sweepRecord current failing listed := by
    simp [sweepEntry]
  rw [TellDeletion, deletionEntry_eq, hentry, deletingMessage_mem_iff, mem_withFate_iff,
    and_assoc]
  refine and_congr_right fun hpicked => ?_
  have hfailed : (∀ e, deletionFailureEntry name e ∉
      (d.sweepRecord current failing listed).map sweepEntry) ↔
        ¬ sweepFate current failing name = .failed := by
    rw [← not_exists, not_iff_not]
    simp only [deletionFailureEntry_eq, hentry]
    rw [deleteFailedMessage_mem_iff hlisted (of_mem_picked hlisted hpicked).1,
      and_iff_right hpicked]
  rw [hfailed]
  cases hfate : sweepFate current failing name with
  | deleted => simp [(sweepFate_eq_deleted_iff.mp hfate).1]
  | skipped => simp [sweepFate_eq_skipped_iff.mp hfate]
  | failed => simp

/-! ## What the entries of an operation tell -/

/-- The entries tell what was done to a store, as far as the names of a scope are concerned. -/
structure Tells (d : Deployment) (scope : String → Prop) (entries : List Activity)
    (store after : Store) : Prop where
  /-- The alias was not moved and no rotation entered, or it was moved and that was entered. -/
  rotation : entries.filter Activity.isRotation = [] ∧
      after.aliases.targets d.naming.writeAlias = store.aliases.targets d.naming.writeAlias ∨
    ∃ old new, entries.filter Activity.isRotation = [rotationEntry old new] ∧
      store.aliases.targets d.naming.writeAlias = old.toList ∧
      after.aliases.targets d.naming.writeAlias = [new]
  /-- An index of the scope that was there and is gone is told to be deleted. -/
  deletion : ∀ name, scope name → store.indices.contains name = true →
    after.indices.contains name = false → TellDeletion entries name
  /-- An index told to be deleted was there and is gone. -/
  told : ∀ name, TellDeletion entries name →
    store.indices.contains name = true ∧ after.indices.contains name = false

/-- Where all indices of the scope stay no entry is needed. -/
theorem Tells.nil {scope : String → Prop} {after : Store}
    (htargets : after.aliases.targets d.naming.writeAlias =
      store.aliases.targets d.naming.writeAlias)
    (hkept : ∀ name, scope name → store.indices.contains name = true →
      after.indices.contains name = true) : d.Tells scope [] store after where
  rotation := .inl ⟨rfl, htargets⟩
  deletion name hscope hexists hgone := by
    rw [hkept name hscope hexists] at hgone
    cases hgone
  told name htold := absurd htold.1 List.not_mem_nil

/-- A single entry of a rotation tells of no deletion. -/
theorem Tells.single {entry : Activity} {after : Store} (hsource : entry.source = "deflector")
    (hrotation : [entry].filter Activity.isRotation = [] ∧
        after.aliases.targets d.naming.writeAlias = store.aliases.targets d.naming.writeAlias ∨
      ∃ old new, [entry].filter Activity.isRotation = [rotationEntry old new] ∧
        store.aliases.targets d.naming.writeAlias = old.toList ∧
        after.aliases.targets d.naming.writeAlias = [new])
    (hkept : ∀ name, store.indices.contains name = true → after.indices.contains name = true) :
    d.Tells (fun _ => True) [entry] store after where
  rotation := hrotation
  deletion name _ hexists hgone := by
    rw [hkept name hexists] at hgone
    cases hgone
  told name htold := by
    have hentry := List.mem_singleton.mp htold.1
    rw [← hentry] at hsource
    exact absurd hsource (by decide : "retention" ≠ "deflector")

/-- The action enters what it does, whatever that is. -/
def Truthful {α : Type} (d : Deployment) (action : Action α) : Prop :=
  ∀ desk : Desk, ∃ entries,
    (Effect.on action desk).2.ledger.activity = desk.ledger.activity ++ d.kept entries ∧
      d.Tells (fun _ => True) entries desk.store (Effect.on action desk).2.store

/-- What is done to the value of a truthful action leaves it truthful. -/
theorem Truthful.map {α β : Type} {action : Action α} (h : d.Truthful action) (f : α → β) :
    d.Truthful (action >>= fun a => pure (f a)) := by
  intro desk
  rw [Effect.on_bind_pure]
  exact h desk

/-- **A rotation is entered with the index that the alias led to and the one that it leads to**, and
a rotation that failed with its failure. -/
theorem truthful_cycle (d : Deployment) : d.Truthful d.cycle := by
  intro desk
  have hrotation := d.cycle_rotation desk
  rcases hcycle : Effect.on d.cycle desk with ⟨e | new, after⟩
  · rw [hcycle] at hrotation
    refine ⟨[d.rotationFailureEntry e], ?_, .single rfl (.inl ⟨?_, ?_⟩) fun _ =>
      hrotation.contains⟩
    · rw [ledger_cycle_of_error hcycle, activity_entered]
    · rw [List.filter_cons, isRotation_rotationFailureEntry]
      rfl
    · exact congrArg (AliasTable.targets · _) hrotation.aliases_of_error
  · obtain ⟨old, hold, hledger⟩ := ledger_cycle_of_ok hcycle
    rw [hcycle] at hrotation
    refine ⟨[rotationEntry old.index? new], ?_, .single (by rw [rotationEntry_eq]; rfl)
      (.inr ⟨old.index?, new, ?_, Store.targets_of_currentTarget hold, hrotation.targets_of_ok⟩)
      fun _ => hrotation.contains⟩
    · rw [hledger, activity_entered]
    · rw [List.filter_cons, isRotation_rotationEntry]
      rfl

/-- Setting up enters what its rotation enters, if it rotates. -/
theorem truthful_setup (d : Deployment) : d.Truthful d.setup := by
  intro desk
  simp only [setup, Effect.on_bind, Action.on_ask]
  cases desk.store.currentTarget d.naming.writeAlias with
  | error e => exact ⟨[], by simp, .nil rfl fun _ _ => id⟩
  | ok target =>
    cases target with
    | bound index => exact ⟨[], by rw [kept_nil, List.append_nil]; rfl, .nil rfl fun _ _ => id⟩
    | unbound =>
      simp only [Effect.on_bind, Action.on_log]
      exact d.truthful_cycle _

/-- **What a sweep deletes is entered**, and the failure of what it could not delete. -/
theorem truthful_sweep (d : Deployment) : d.Truthful d.sweep := by
  intro desk
  rcases d.on_sweep desk with
    ⟨e, hfailed⟩ | ⟨current, listed, after, hcurrent, hlisted, hswept, hdone⟩
  · rw [hfailed]
    exact ⟨[], by simp, .nil rfl fun _ _ => id⟩
  · rw [hswept]
    have htargets := targets_of_currentIndex hcurrent
    refine ⟨_, hdone.activity, .inl ⟨filter_isRotation_sweep _,
      (targets_of_swept htargets hdone).trans htargets.symm⟩, fun name _ hexists hgone => ?_,
      fun name htold => ?_⟩
    · rw [tellDeletion_sweep_iff hlisted]
      rw [hdone.store, ← Bool.not_eq_true, Store.contains_withoutIndices_iff] at hgone
      by_contra hname
      exact hgone ⟨hname, hexists⟩
    · rw [tellDeletion_sweep_iff hlisted] at htold
      refine ⟨(of_mem_picked hlisted (mem_withFate_iff.mp htold).1).2, ?_⟩
      rw [hdone.store, ← Bool.not_eq_true, Store.contains_withoutIndices_iff]
      exact fun hkept => hkept.1 htold

/-- An operation that makes no entry is truthful if it neither rotates nor sweeps. -/
theorem truthful_of_quiet {operation : Operation} (hquiet : Action.Quiet (d.perform operation))
    (hrotates : ∀ store, d.rotates store operation = false) (hsweep : operation ≠ .sweep) :
    d.Truthful (d.perform operation) := by
  intro desk
  have htransition := d.perform_transition operation desk
  refine ⟨[], ?_, .nil ?_ fun name _ hexists => ?_⟩
  · rw [hquiet.keepsLedger, kept_nil, List.append_nil]
  · rw [htransition.aliases_of_quiet (hrotates _) hsweep]
  · exact (htransition.contains_or_swept hexists).resolve_right fun hswept => hsweep hswept.1

/-- **Every operation tells what it did**, whether it succeeds or fails. -/
theorem truthful_perform (d : Deployment) (operation : Operation) :
    d.Truthful (d.perform operation) := by
  cases operation with
  | setup => exact d.truthful_setup.map _
  | cycle => exact d.truthful_cycle.map _
  | createRecentIndex =>
    exact truthful_of_quiet (.bind d.quiet_createRecentIndex fun _ => .pure _)
      (fun _ => rfl) nofun
  | ensureRecentIndex =>
    exact truthful_of_quiet (.bind d.quiet_ensureRecentIndex fun _ => .pure _)
      (fun _ => rfl) nofun
  | writeBatch records =>
    exact truthful_of_quiet (.bind (d.quiet_writeBatch records) fun _ => .pure _)
      (fun _ => rfl) nofun
  | purge upTo =>
    exact truthful_of_quiet (.bind (d.quiet_purge upTo) fun _ => .pure _)
      (fun _ => rfl) nofun
  | sweep => exact d.truthful_sweep.map _

end Deployment

namespace Cluster

variable {cluster : Cluster} {member : Nat} {m : Member} {d : Deployment}

/-! ## What the entries of an event tell -/

/-- No other deployment has the prefix of a deployment. -/
def OwnPrefix (cluster : Cluster) (member : Nat) (d : Deployment) : Prop :=
  ∀ k q, cluster.deployments[k]? = some q → k ≠ member → q.naming.stem ≠ d.naming.stem

theorem OwnPrefix.step (h : cluster.OwnPrefix member d) (event : Event) :
    (cluster.step event).OwnPrefix member d := by
  rw [OwnPrefix, deployments_step]
  exact h

/-- An operation of one deployment leaves the others and their ledgers alone. -/
theorem getElem?_members_step (cluster : Cluster) {k : Nat} (hne : k ≠ member)
    (operation : Operation) :
    (cluster.step (.operation k operation)).members[member]? = cluster.members[member]? := by
  cases hk : cluster.members[k]? with
  | none => rw [step, act, hk]
  | some p =>
    rw [step, act_of_member hk]
    exact List.getElem?_set_ne hne

/-- An operation of another deployment neither moves the alias nor deletes an index of the prefix,
so nothing is to be told of it. -/
theorem tells_nil_of_foreign {q : Deployment} {store after : Store} {operation : Operation}
    {result : Except Failure Answer} {scope : String → Prop}
    (hsafe : store.WellAliased) (hstem : q.naming.stem ≠ d.naming.stem)
    (hscope : ∀ name, scope name → d.naming.Owns name)
    (htransition : q.Transition store operation result after) : d.Tells scope [] store after := by
  refine .nil ?_ fun name hname hexists => ?_
  · rcases hsafe.targets_transition htransition d.naming.writeAlias with
      hsame | ⟨names, -, halias, -⟩
    · exact hsame
    · exact absurd (Naming.writeAlias_inj.mp halias).symm hstem
  · refine (htransition.contains_or_swept hexists).resolve_right fun hswept => hstem ?_
    exact Naming.stem_eq_of_owns (.of_isRotated hswept.2.1) (hscope name hname)

/-- **The entries of every event tell what it did** to the alias and the indices of a deployment:
to all indices if the deployment acted itself, and to those of its prefix in any case. -/
theorem tells_step (hm : cluster.members[member]? = some m)
    (hown : cluster.OwnPrefix member m.deployment) (hsafe : cluster.store.WellAliased)
    (event : Event) :
    ∃ m' entries, (cluster.step event).members[member]? = some m' ∧
      m'.deployment = m.deployment ∧
      m'.ledger.activity = m.ledger.activity ++ m.deployment.kept entries ∧
      m.deployment.Tells
        (fun name => m.deployment.naming.Owns name ∨
          ∃ operation, event = .operation member operation)
        entries cluster.store (cluster.step event).store := by
  cases event with
  | fault fault =>
    exact ⟨m, [], hm, rfl, by simp, .nil rfl fun _ _ => id⟩
  | operation k operation =>
    by_cases hself : k = member
    · subst hself
      obtain ⟨entries, hactivity, htells⟩ :=
        m.deployment.truthful_perform operation (cluster.desk m)
      obtain ⟨hlt, -⟩ := List.getElem?_eq_some_iff.mp hm
      rw [step, act_of_member hm]
      refine ⟨_, entries, List.getElem?_set_self hlt, rfl, hactivity, htells.rotation,
        fun name _ => htells.deletion name trivial, htells.told⟩
    · refine ⟨m, [], (cluster.getElem?_members_step hself operation).trans hm, rfl, by simp, ?_⟩
      have hscope : ∀ name, (m.deployment.naming.Owns name ∨
          ∃ other, Event.operation k operation = .operation member other) →
            m.deployment.naming.Owns name := by
        rintro name (hname | ⟨other, heq⟩)
        · exact hname
        · exact absurd (Event.operation.inj heq).1 hself
      have hstep := cluster.step_store (.operation k operation)
      generalize (cluster.step (.operation k operation)).store = after at hstep
      cases hstep with
      | absent => exact .nil rfl fun _ _ => id
      | performed _ _ q result _ hq _ htransition =>
        exact tells_nil_of_foreign hsafe (hown k q hq hself) hscope htransition

/-! ## Runs -/

/-- The entries about rotations form a chain that ends with what the alias leads to. -/
def Chained (cluster : Cluster) (member : Nat) (d : Deployment) : Prop :=
  ∃ m targets, cluster.members[member]? = some m ∧ m.deployment = d ∧
    m.ledger.activity.filter Activity.isRotation = rotationChain none targets ∧
    cluster.store.aliases.targets d.naming.writeAlias = targets.getLast?.toList

theorem Chained.step (h : cluster.Chained member d) (haudit : d.audit = .ledger)
    (hown : cluster.OwnPrefix member d) (hsafe : cluster.store.WellAliased) (event : Event) :
    (cluster.step event).Chained member d := by
  obtain ⟨m, targets, hm, rfl, hchain, htargets⟩ := h
  obtain ⟨m', entries, hm', hsame, hactivity, htells⟩ := tells_step hm hown hsafe event
  rw [Deployment.kept_of_ledger haudit] at hactivity
  rcases htells.rotation with ⟨hnone, hunmoved⟩ | ⟨old, new, hentry, hold, hnew⟩
  · refine ⟨m', targets, hm', hsame, ?_, hunmoved.trans htargets⟩
    rw [hactivity, List.filter_append, hnone, List.append_nil, hchain]
  · -- the index that the alias led to is the one that the chain ended with
    have hlast : targets.getLast? = old := by
      simpa using congrArg List.head? (htargets.symm.trans hold)
    refine ⟨m', targets ++ [new], hm', hsame, ?_, ?_⟩
    · rw [hactivity, List.filter_append, hentry, hchain, rotationChain_concat, Option.or_none,
        hlast]
    · rw [hnew, List.getLast?_concat]
      rfl

theorem Chained.run (h : cluster.Chained member d) (haudit : d.audit = .ledger)
    (hown : cluster.OwnPrefix member d) (hsafe : cluster.store.WellAliased)
    (events : List Event) : (cluster.run events).Chained member d := by
  induction events generalizing cluster with
  | nil => exact h
  | cons event events ih =>
    exact ih (h.step haudit hown hsafe event) (hown.step event) (wellAliased_step hsafe event)

/-- **The record of a deployment is its true history.** Take any run of any deployments with a store
that was empty, under any faults, where one deployment keeps its record in its ledger and no other
has its prefix. The entries of its record about rotations form a chain: the first names a first
target, each later one names the target before and the target after, and the alias leads to the last
target; as long as it is unbound there are none. And whatever happens next, the entries made then
tell which indices are deleted:

* an index that was there and is gone is entered as deleted, with no failure, if it belongs to the
  prefix or if the deployment acted;
* an index entered as deleted, with no failure, was there and is gone. -/
theorem record_tells_history (ds : List Deployment) (hd : ds[member]? = some d)
    (haudit : d.audit = .ledger)
    (hown : ∀ k q, ds[k]? = some q → k ≠ member → q.naming.stem ≠ d.naming.stem)
    (events : List Event) :
    ∃ m targets, ((start ds).run events).members[member]? = some m ∧
      m.ledger.activity.filter Activity.isRotation = rotationChain none targets ∧
      ((start ds).run events).store.aliases.targets d.naming.writeAlias =
        targets.getLast?.toList ∧
      ∀ event, ∃ m' entries,
        (((start ds).run events).step event).members[member]? = some m' ∧
          m'.ledger.activity = m.ledger.activity ++ entries ∧
          (∀ name, (d.naming.Owns name ∨ ∃ operation, event = .operation member operation) →
            ((start ds).run events).store.indices.contains name = true →
            (((start ds).run events).step event).store.indices.contains name = false →
              TellDeletion entries name) ∧
          ∀ name, TellDeletion entries name →
            ((start ds).run events).store.indices.contains name = true ∧
              (((start ds).run events).step event).store.indices.contains name = false := by
  have hownPrefix : ∀ events, ((start ds).run events).OwnPrefix member d := by
    intro events
    rw [OwnPrefix, deployments_run, deployments_start]
    exact hown
  have hstart : (start ds).Chained member d := by
    refine ⟨{ deployment := d }, [], ?_, rfl, rfl, rfl⟩
    rw [start, List.getElem?_map, hd]
    rfl
  obtain ⟨m, targets, hm, rfl, hchain, htargets⟩ :=
    hstart.run haudit (hownPrefix []) Store.wellAliased_empty events
  refine ⟨m, targets, hm, hchain, htargets, fun event => ?_⟩
  obtain ⟨m', entries, hm', -, hactivity, htells⟩ := tells_step hm (hownPrefix events)
    (wellAliased_run Store.wellAliased_empty events) event
  rw [Deployment.kept_of_ledger haudit] at hactivity
  exact ⟨m', entries, hm', hactivity, htells.deletion, htells.told⟩

/-- After three rotations the chain has three entries and ends with the third index, and when a
sweep deletes the second index that is entered. -/
theorem record_tells_history_three :
    ∃ m targets, Deployment.clusterOfThree.members[0]? = some m ∧
      m.ledger.activity.filter Activity.isRotation = rotationChain none targets ∧
      rotationChain none targets =
        [{ source := "deflector", message := "Initialized deflector with first target <logs_0>" },
          { source := "deflector", message := "Cycled deflector from <logs_0> to <logs_1>" },
          { source := "deflector", message := "Cycled deflector from <logs_1> to <logs_2>" }] ∧
      targets.getLast? = some "logs_2" ∧
      ∃ m' entries,
        (Deployment.clusterOfThree.step (.operation 0 .sweep)).members[0]? = some m' ∧
          m'.ledger.activity = m.ledger.activity ++ entries ∧ TellDeletion entries "logs_1" := by
  have hmember : [Deployment.keepingNone][0]? = some Deployment.keepingNone := rfl
  have hown : ∀ k q, [Deployment.keepingNone][k]? = some q → k ≠ 0 →
      q.naming.stem ≠ Deployment.keepingNone.naming.stem := by
    rintro (_ | k) q hk hne
    · exact absurd rfl hne
    · cases hk
  obtain ⟨m, targets, hm, hchain, htargets, hnext⟩ :=
    record_tells_history _ hmember rfl hown Deployment.threeIndices
  rw [← Deployment.clusterOfThree] at hm htargets hnext
  obtain ⟨m', entries, hm', hactivity, hdeleted, -⟩ := hnext (.operation 0 .sweep)
  have htarget : Deployment.clusterOfThree.store.aliases.targets "logs_deflector" = ["logs_2"] := by
    decide +kernel
  have hdeployment : m.deployment = Deployment.keepingNone := by
    have hd := congrArg (·[0]?)
      (deployments_run (start [Deployment.keepingNone]) Deployment.threeIndices)
    rw [← Deployment.clusterOfThree, deployments, deployments_start, List.getElem?_map, hm] at hd
    exact Option.some.inj hd
  refine ⟨m, targets, hm, hchain, ?_, ?_, m', entries, hm', hactivity,
    hdeleted "logs_1" (.inr ⟨_, rfl⟩) (by decide +kernel) ?_⟩
  · have hfound := congrArg (Option.map fun m => m.ledger.activity.filter Activity.isRotation) hm
    rw [← hchain]
    exact Option.some.inj (hfound.symm.trans rfl)
  · rw [← Option.toList_eq_singleton_iff]
    exact htargets.symm.trans htarget
  · have hstore : (Deployment.clusterOfThree.desk m).store = Deployment.clusterOfThree.store := rfl
    obtain ⟨after, hswept, hafter⟩ := Deployment.sweep_three hstore
    rw [store_step_of_member hm, hdeployment, Deployment.perform, Effect.on_bind_pure, hswept,
      hafter, ← Bool.not_eq_true, Store.contains_withoutIndices_iff]
    exact fun hkept => hkept.1 (List.mem_singleton_self _)

end Cluster

end RollingIndex
