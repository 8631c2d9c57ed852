import RollingIndex.Deployment.Ingest
import RollingIndex.Proofs.Rotations

/-!
# What an action enters

A deployment keeps a record, in its ledger or in the log. Most actions enter nothing there: they
leave the ledger alone, and the lines that they log are no entries. This is kept by all ways of
putting actions together (`Action.Quiet`). An action that ends with an entry enters nothing if it
fails before (`Action.QuietOnFailure`). So **a batch enters nothing**
(`Deployment.quiet_writeBatch`), and **a rotation makes one entry**, which names its failure
(`Deployment.entry_of_cycle_error`) or the indices that the alias led to and leads to
(`Deployment.entry_of_cycle_ok`).
-/

namespace RollingIndex

/-- Of two operations in a row that fail the first has failed, or the second after the first. -/
theorem Effect.of_bind_error {σ α β : Type} {x : Effect σ α} {f : α → Effect σ β} {s t : σ}
    {e : Failure} (h : Effect.on (x >>= f) s = (.error e, t)) :
    Effect.on x s = (.error e, t) ∨
      ∃ a u, Effect.on x s = (.ok a, u) ∧ Effect.on (f a) u = (.error e, t) := by
  rw [Effect.on_bind] at h
  generalize Effect.on x s = outcome at h ⊢
  rcases outcome with ⟨e' | a, u⟩
  · cases h
    exact .inl rfl
  · exact .inr ⟨a, u, rfl, h⟩

/-- Two operations in a row succeed if the first does, and the second after the first. -/
theorem Effect.of_bind_ok {σ α β : Type} {x : Effect σ α} {f : α → Effect σ β} {s t : σ} {b : β}
    (h : Effect.on (x >>= f) s = (.ok b, t)) :
    ∃ a u, Effect.on x s = (.ok a, u) ∧ Effect.on (f a) u = (.ok b, t) := by
  rw [Effect.on_bind] at h
  generalize Effect.on x s = outcome at h ⊢
  rcases outcome with ⟨e | a, u⟩
  · cases h
  · exact ⟨a, u, rfl, h⟩

/-! ## Desks between which nothing is entered -/

/-- From one desk to the other nothing is entered: the ledger is the same, and the lines that were
logged are no entries. -/
def Desk.NothingEntered (desk after : Desk) : Prop :=
  after.ledger = desk.ledger ∧
    ∃ lines : List LogLine, after.log = desk.log ++ lines ∧ ∀ line ∈ lines, line.source = none

namespace Desk.NothingEntered

variable {desk middle after : Desk}

/-- Whatever becomes of the store, nothing is entered where ledger and log stay. -/
theorem of_eq (hledger : after.ledger = desk.ledger) (hlog : after.log = desk.log) :
    desk.NothingEntered after :=
  ⟨hledger, [], by rw [hlog, List.append_nil], nofun⟩

theorem refl (desk : Desk) : desk.NothingEntered desk := of_eq rfl rfl

theorem trans (hfirst : desk.NothingEntered middle) (hsecond : middle.NothingEntered after) :
    desk.NothingEntered after := by
  obtain ⟨hledger, lines, hlog, hplain⟩ := hfirst
  obtain ⟨hledger', lines', hlog', hplain'⟩ := hsecond
  refine ⟨hledger'.trans hledger, lines ++ lines', ?_, fun line hline => ?_⟩
  · rw [hlog', hlog, List.append_assoc]
  · rcases List.mem_append.mp hline with hline | hline
    · exact hplain line hline
    · exact hplain' line hline

end Desk.NothingEntered

namespace Action

variable {α β : Type}

/-! ## Actions that enter nothing -/

/-- The action enters nothing, whether it succeeds or fails. -/
def Quiet (action : Action α) : Prop :=
  ∀ desk : Desk, desk.NothingEntered (Effect.on action desk).2

/-- The action enters nothing if it fails. -/
def QuietOnFailure (action : Action α) : Prop :=
  ∀ (desk after : Desk) (e : Failure), Effect.on action desk = (.error e, after) →
    desk.NothingEntered after

/-- The action leaves the ledger as it is, whether it succeeds or fails. -/
def KeepsLedger (action : Action α) : Prop :=
  ∀ desk : Desk, (Effect.on action desk).2.ledger = desk.ledger

namespace Quiet

theorem pure (a : α) : Quiet (pure a) := fun desk => .refl desk

theorem throw (e : Failure) : Quiet (throw e : Action α) := fun desk => .refl desk

theorem lift (outcome : Except Failure α) : Quiet (liftM outcome : Action α) := by
  intro desk
  rw [Effect.on_lift]
  exact .refl desk

theorem ask (question : Store → Except Failure α) : Quiet (Action.ask question) := by
  intro desk
  rw [on_ask]
  exact .refl desk

theorem onStore (change : Change α) : Quiet (Action.onStore change) := by
  intro desk
  rw [on_onStore]
  exact .of_eq rfl rfl

theorem logLines {lines : List LogLine} (h : ∀ line ∈ lines, line.source = none) :
    Quiet (Action.logLines lines) := by
  intro desk
  rw [on_logLines]
  exact ⟨rfl, lines, rfl, h⟩

theorem log (level : LogLevel) (text : String) : Quiet (Action.log level text) := by
  refine logLines fun line hline => ?_
  rw [List.mem_singleton.mp hline]

/-- Of two actions in a row neither enters anything. -/
theorem bind {x : Action α} {f : α → Action β} (hx : Quiet x) (hf : ∀ a, Quiet (f a)) :
    Quiet (x >>= f) := by
  intro desk
  have hfirst := hx desk
  rw [Effect.on_bind]
  rcases hon : Effect.on x desk with ⟨e | a, middle⟩
  · rw [hon] at hfirst
    exact hfirst
  · rw [hon] at hfirst
    exact hfirst.trans (hf a middle)

theorem outcomeOf {x : Action α} (hx : Quiet x) : Quiet (Deployment.outcomeOf x) := by
  intro desk
  rw [Deployment.on_outcomeOf]
  exact hx desk

/-- What the desk after the action shows. -/
theorem nothingEntered {x : Action α} (hx : Quiet x) {desk after : Desk}
    {result : Except Failure α} (h : Effect.on x desk = (result, after)) :
    desk.NothingEntered after := by
  have hafter := hx desk
  rwa [h] at hafter

theorem keepsLedger {x : Action α} (hx : Quiet x) : KeepsLedger x := fun desk => (hx desk).1

end Quiet

/-- An action that enters nothing comes before one that does so if it fails. -/
theorem QuietOnFailure.bind {x : Action α} {f : α → Action β} (hx : Quiet x)
    (hf : ∀ a, QuietOnFailure (f a)) : QuietOnFailure (x >>= f) := by
  intro desk after e h
  rcases Effect.of_bind_error h with hfailed | ⟨a, middle, hok, hfailed⟩
  · exact hx.nothingEntered hfailed
  · exact (hx.nothingEntered hok).trans (hf a middle after e hfailed)

end Action

namespace Deployment

/-! ## Entries -/

/-- The ledger of a deployment with one more entry in the record, if the record is kept there. -/
def entered (d : Deployment) (ledger : Ledger) (entry : Activity) : Ledger :=
  match d.audit with
  | .ledger => { ledger with activity := ledger.activity ++ [entry] }
  | .log => ledger

theorem ranges_entered (d : Deployment) (ledger : Ledger) (entry : Activity) :
    (d.entered ledger entry).ranges = ledger.ranges := by
  rw [entered]
  split <;> rfl

/-- Of some entries in the record those that stand in the ledger: all or none. -/
def kept (d : Deployment) (entries : List Activity) : List Activity :=
  match d.audit with
  | .ledger => entries
  | .log => []

theorem kept_append (d : Deployment) (entries entries' : List Activity) :
    d.kept (entries ++ entries') = d.kept entries ++ d.kept entries' := by
  rw [kept, kept, kept]
  cases d.audit <;> rfl

theorem kept_of_ledger {d : Deployment} (h : d.audit = .ledger) (entries : List Activity) :
    d.kept entries = entries := by
  rw [kept, h]

@[simp] theorem kept_nil (d : Deployment) : d.kept [] = [] := by
  rw [kept]
  cases d.audit <;> rfl

theorem activity_entered (d : Deployment) (ledger : Ledger) (entry : Activity) :
    (d.entered ledger entry).activity = ledger.activity ++ d.kept [entry] := by
  rw [entered, kept]
  cases d.audit with
  | ledger => rfl
  | log => exact (List.append_nil _).symm

theorem ledger_record (d : Deployment) (entry : Activity) (desk : Desk) :
    (Effect.on (Action.record d entry) desk).2.ledger = d.entered desk.ledger entry := by
  rw [Action.record, Effect.on_modify, entered]
  cases d.audit <;> rfl

/-- The record of a deployment as it can be read at a desk: the entries in the ledger, or the lines
of the log that are entries, if that is where the record goes. -/
def recordAt (d : Deployment) (desk : Desk) : List Activity :=
  match d.audit with
  | .ledger => desk.ledger.activity
  | .log => desk.log.filterMap fun line =>
      line.source.map fun source => { source, message := line.text }

/-- An entry stands at the end of the record. -/
theorem recordAt_record (d : Deployment) (entry : Activity) (desk : Desk) :
    d.recordAt (Effect.on (Action.record d entry) desk).2 = d.recordAt desk ++ [entry] := by
  rw [Action.record, Effect.on_modify, recordAt, recordAt]
  cases d.audit with
  | ledger => rfl
  | log => exact List.filterMap_append

/-- Where nothing was entered the record is as before. -/
theorem recordAt_of_nothingEntered (d : Deployment) {desk after : Desk}
    (h : desk.NothingEntered after) : d.recordAt after = d.recordAt desk := by
  obtain ⟨hledger, lines, hlog, hplain⟩ := h
  rw [recordAt, recordAt]
  cases d.audit with
  | ledger => exact congrArg Ledger.activity hledger
  | log =>
    have hnone : (lines.filterMap fun line =>
        line.source.map fun source => ({ source, message := line.text } : Activity)) = [] := by
      refine List.filterMap_eq_nil_iff.mpr fun line hline => ?_
      rw [hplain line hline]
      rfl
    dsimp only
    rw [hlog, List.filterMap_append, hnone, List.append_nil]

/-- An entry that follows where nothing was entered is the one entry more. -/
theorem entered_of_record {d : Deployment} {entry : Activity} {desk before after : Desk}
    (hquiet : desk.NothingEntered before)
    (hrecord : Effect.on (Action.record d entry) before = (.ok (), after)) :
    d.recordAt after = d.recordAt desk ++ [entry] ∧
      after.ledger = d.entered desk.ledger entry := by
  have hrecordAt := d.recordAt_record entry before
  have hledger := d.ledger_record entry before
  rw [hrecord] at hrecordAt hledger
  exact ⟨by rw [hrecordAt, d.recordAt_of_nothingEntered hquiet], by rw [hledger, hquiet.1]⟩

/-! ## Operations -/

/-- A batch enters nothing. -/
theorem quiet_writeBatch (d : Deployment) (records : List Record) :
    Action.Quiet (d.writeBatch records) := by
  have hlogged : ∀ place results, Action.Quiet (logBulk place results) := by
    intro place results
    refine .logLines fun line hline => ?_
    rcases List.mem_cons.mp hline with rfl | hline
    · rfl
    · obtain ⟨result, -, hitem⟩ := List.mem_filterMap.mp hline
      obtain ⟨failure, -, rfl⟩ := Option.map_eq_some_iff.mp hitem
      rfl
  rw [writeBatch]
  split
  · exact .pure _
  · refine .bind (.outcomeOf (.onStore _)) fun main =>
      .bind (.outcomeOf (.onStore _)) fun recent => ?_
    -- what the two requests came to decides what is logged and answered
    rcases main with e | main <;> rcases recent with e' | recent
    · exact .throw _
    · exact .bind (hlogged _ _) fun _ => .throw _
    · exact .bind (hlogged _ _) fun _ => .throw _
    · exact .bind (hlogged _ _) fun _ => .bind (hlogged _ _) fun _ => .pure _

theorem quiet_createWithMapping (d : Deployment) (name : String) (settings : IndexSettings) :
    Action.Quiet (d.createWithMapping name settings) := by
  rw [createWithMapping]
  refine .bind (.onStore _) fun created => ?_
  split
  · refine .bind (.onStore _) fun mapped => ?_
    split
    · exact .log _ _
    · exact .bind (.log _ _) fun _ => .throw _
  · exact .bind (.log _ _) fun _ => .throw _

theorem quiet_cutover (aliasName new : String) (old : Option String) :
    Action.Quiet (cutover aliasName new old) := by
  rw [cutover]
  refine .bind (.onStore _) fun confirmed => ?_
  split
  · exact .log _ _
  · exact .bind (.log _ _) fun _ => .throw _

theorem quiet_createRecentIndex (d : Deployment) : Action.Quiet d.createRecentIndex := by
  rw [createRecentIndex]
  exact .bind (.lift _) fun _ => d.quiet_createWithMapping _ _

theorem quiet_ensureRecentIndex (d : Deployment) : Action.Quiet d.ensureRecentIndex := by
  rw [ensureRecentIndex]
  refine .bind (.ask _) fun found => ?_
  split
  · exact .pure _
  · exact .bind (.log _ _) fun _ => .bind d.quiet_createRecentIndex fun _ => .pure _

theorem quiet_purge (d : Deployment) (upTo : Int) : Action.Quiet (d.purge upTo) := by
  rw [purge]
  refine .bind (.ask _) fun names => ?_
  split
  · exact .pure _
  · exact .bind (.onStore _) fun _ => .bind (.log _ _) fun _ => .pure _

/-- A rotation makes its entry last, and nothing fails after that. -/
theorem quietOnFailure_rotate (d : Deployment) : Action.QuietOnFailure d.rotate := by
  rw [rotate]
  refine .bind (.ask _) fun old => .bind (.ask _) fun names => .bind (.log _ _) fun _ =>
    .bind (d.quiet_createWithMapping _ _) fun _ => .bind (quiet_cutover _ _ _) fun _ => ?_
  intro desk after e h
  obtain ⟨recorded, hrecord, -⟩ := Action.on_record d
    { source := rotationSource,
      message := rotationMessage old.index? (d.naming.nextName names) } desk
  rw [Effect.on_bind, hrecord] at h
  cases h

/-- **A rotation that fails makes one entry**, which names the failure. -/
theorem entry_of_cycle_error {d : Deployment} {desk after : Desk} {e : Failure}
    (h : Effect.on d.cycle desk = (.error e, after)) :
    ∃ before, desk.NothingEntered before ∧
      Effect.on (Action.record d (d.rotationFailureEntry e)) before = (.ok (), after) := by
  rcases d.cycle_cases desk with
    ⟨new, done, -, hcycle⟩ | ⟨e', failed, recorded, hrotate, hrecord, -, hcycle⟩
  · rw [hcycle] at h
    cases h
  · rw [hcycle] at h
    cases h
    refine ⟨_, (d.quietOnFailure_rotate _ _ _ hrotate).trans ?_, hrecord⟩
    exact ⟨rfl, _, rfl, fun line hline => by rw [List.mem_singleton.mp hline]⟩

/-- **A rotation that succeeds makes one entry**, which names the index that the alias led to, if it
led to one, and the index that it leads to now. -/
theorem entry_of_cycle_ok {d : Deployment} {desk after : Desk} {new : String}
    (h : Effect.on d.cycle desk = (.ok new, after)) :
    ∃ old before, desk.store.currentTarget d.naming.writeAlias = .ok old ∧
      desk.NothingEntered before ∧
      Effect.on (Action.record d (rotationEntry old.index? new)) before = (.ok (), after) := by
  have hrotate : Effect.on d.rotate desk = (.ok new, after) := by
    rcases d.cycle_cases desk with
      ⟨new', done, hrotate, hcycle⟩ | ⟨e, failed, recorded, -, -, -, hcycle⟩
    · rw [hcycle] at h
      exact h ▸ hrotate
    · rw [hcycle] at h
      cases h
  -- the steps of the rotation, of which the last but one makes the entry
  obtain ⟨old, desk₁, hold, hrotate⟩ := Effect.of_bind_ok hrotate
  obtain ⟨names, desk₂, hnames, hrotate⟩ := Effect.of_bind_ok hrotate
  obtain ⟨_, desk₃, hlog, hrotate⟩ := Effect.of_bind_ok hrotate
  obtain ⟨_, desk₄, hcreate, hrotate⟩ := Effect.of_bind_ok hrotate
  obtain ⟨_, desk₅, hcutover, hrotate⟩ := Effect.of_bind_ok hrotate
  obtain ⟨_, desk₆, hrecord, hrotate⟩ := Effect.of_bind_ok hrotate
  cases hrotate
  rw [Action.on_ask, Prod.mk.injEq] at hold
  obtain ⟨hold, rfl⟩ := hold
  refine ⟨old, desk₅, hold, ?_, rotationEntry_eq .. ▸ hrecord⟩
  exact ((((Action.Quiet.ask _).nothingEntered hnames).trans
    ((Action.Quiet.log _ _).nothingEntered hlog)).trans
      ((d.quiet_createWithMapping _ _).nothingEntered hcreate)).trans
        ((quiet_cutover _ _ _).nothingEntered hcutover)

/-- A rotation that fails makes one entry in the ledger, if the record is kept there. -/
theorem ledger_cycle_of_error {d : Deployment} {desk after : Desk} {e : Failure}
    (h : Effect.on d.cycle desk = (.error e, after)) :
    after.ledger = d.entered desk.ledger (d.rotationFailureEntry e) := by
  obtain ⟨before, hquiet, hrecord⟩ := entry_of_cycle_error h
  exact (entered_of_record hquiet hrecord).2

/-- A rotation that succeeds makes one entry in the ledger, if the record is kept there. -/
theorem ledger_cycle_of_ok {d : Deployment} {desk after : Desk} {new : String}
    (h : Effect.on d.cycle desk = (.ok new, after)) :
    ∃ old, desk.store.currentTarget d.naming.writeAlias = .ok old ∧
      after.ledger = d.entered desk.ledger (rotationEntry old.index? new) := by
  obtain ⟨old, before, hold, hquiet, hrecord⟩ := entry_of_cycle_ok h
  exact ⟨old, hold, (entered_of_record hquiet hrecord).2⟩

end Deployment

end RollingIndex
