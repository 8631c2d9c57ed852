import Mathlib.Data.List.Induction
import RollingIndex.Proofs.SharedStores

/-!
# Moving an alias

Whoever moves an alias says to which index and from which one. The store unbinds the index given as
the old one and binds the new one, and does not ask what the alias is bound to; if it is bound to
something else it stays bound to that as well, and leads to several indices. So what a move comes to
depends on whether it fits what the alias is bound to (`Store.Fits`):

* **a move that is carried out leaves the alias bound to the new index alone exactly if it fits**
  (`Store.targets_moved_iff`);
* **a sequence of moves keeps every alias bound to one index at most exactly if each move fits
  that is carried out** (`Desk.unambiguous_throughout_iff`);
* **with an alias of several indices a deployment stands still**: it neither rotates nor sweeps, and
  nothing is written through the alias (`Deployment.stuck_of_several`).

A rotation asks what its alias is bound to and makes a move that fits. Moves that do not are made by
others (`Deployment.cutover_leaves_several`).
-/

namespace RollingIndex

/-- A move of an alias, as it is asked for. -/
structure AliasMove where
  /-- the alias -/
  aliasName : String
  /-- the index to bind -/
  new : String
  /-- the index to unbind, if one is given -/
  old : Option String
deriving DecidableEq

/-- Make a move. -/
def AliasMove.perform (move : AliasMove) : Action Unit :=
  Deployment.cutover move.aliasName move.new move.old

/-- The actions of a move. -/
def AliasMove.actions (move : AliasMove) : List AliasAction :=
  Deployment.cutoverActions move.aliasName move.new move.old

namespace Store

variable {store : Store} {move : AliasMove} {index aliasName : String}

/-! ## One move -/

/-- The store can be reached, has the new index and confirms changes of aliases. -/
def CarriesOut (store : Store) (move : AliasMove) : Prop :=
  store.faults.unavailable = false ∧ store.indices.contains move.new = true ∧
    store.faults.acknowledgesAliases = true

/-- The alias is bound to nothing but the index given as the old one and the new index. -/
def Fits (store : Store) (move : AliasMove) : Prop :=
  ∀ index ∈ store.aliases.targets move.aliasName, index = move.new ∨ move.old = some index

instance (store : Store) (move : AliasMove) : Decidable (store.Fits move) :=
  List.decidableBAll _ _

/-- The store with a move carried out. -/
def moved (store : Store) (move : AliasMove) : Store :=
  { store with aliases := store.aliases.apply move.actions }

/-- A move binds the new index and unbinds the one given as the old one. -/
theorem mem_targets_moved :
    index ∈ (store.moved move).aliases.targets move.aliasName ↔
      index = move.new ∨
        index ∈ store.aliases.targets move.aliasName ∧ move.old ≠ some index := by
  rw [moved, AliasTable.apply, AliasTable.targets_prune, AliasMove.actions]
  cases hold : move.old with
  | none =>
    rw [Deployment.cutoverActions, List.foldl_cons, List.foldl_nil, AliasTable.mem_targets_act]
    simp [eq_comm]
  | some old =>
    rw [Deployment.cutoverActions, List.foldl_cons, List.foldl_cons, List.foldl_nil,
      AliasTable.mem_targets_act, AliasTable.mem_targets_act]
    simp [eq_comm, and_comm]

/-- A move changes nothing about other aliases. -/
theorem targets_moved_of_ne (h : aliasName ≠ move.aliasName) :
    (store.moved move).aliases.targets aliasName = store.aliases.targets aliasName := by
  refine AliasTable.targets_apply_of_forall fun index => ?_
  rw [AliasMove.actions]
  cases move.old <;> simp [Deployment.cutoverActions, h]

/-- **A move leaves the alias bound to the new index only exactly if it fits.** -/
theorem targets_moved_iff :
    (store.moved move).aliases.targets move.aliasName = [move.new] ↔ store.Fits move := by
  rw [AliasTable.targets_eq_singleton_iff]
  constructor
  · intro h index hindex
    by_cases hold : move.old = some index
    · exact .inr hold
    · exact .inl ((h index).mp (mem_targets_moved.mpr (.inr ⟨hindex, hold⟩)))
  · intro h index
    rw [mem_targets_moved]
    refine ⟨?_, .inl⟩
    rintro (hnew | ⟨hindex, hold⟩)
    · exact hnew
    · exact (h index hindex).resolve_right hold

/-- A move that does not fit leaves the alias bound to several indices. -/
theorem two_le_length_of_not_fits (h : ¬ store.Fits move) :
    2 ≤ ((store.moved move).aliases.targets move.aliasName).length := by
  have hnew : move.new ∈ (store.moved move).aliases.targets move.aliasName :=
    mem_targets_moved.mpr (.inl rfl)
  have hothers : (store.moved move).aliases.targets move.aliasName ≠ [move.new] :=
    fun htargets => h (targets_moved_iff.mp htargets)
  generalize (store.moved move).aliases.targets move.aliasName = targets at hnew hothers
  match targets with
  | [] => cases hnew
  | [index] => exact absurd (List.mem_singleton.mp hnew) fun heq => hothers (by rw [heq])
  | _ :: _ :: _ => simp

/-- Every alias is bound to one index at most. -/
def Unambiguous (store : Store) : Prop :=
  ∀ aliasName, (store.aliases.targets aliasName).length ≤ 1

theorem unambiguous_moved_iff (h : store.Unambiguous) :
    (store.moved move).Unambiguous ↔ store.Fits move := by
  constructor
  · intro hmoved
    by_contra hfits
    exact absurd (hmoved move.aliasName) (Nat.not_le.mpr (two_le_length_of_not_fits hfits))
  · intro hfits aliasName
    by_cases hname : aliasName = move.aliasName
    · rw [hname, targets_moved_iff.mpr hfits]
      exact Nat.le_refl 1
    · rw [targets_moved_of_ne hname]
      exact h aliasName

/-! ## Aliases of several indices -/

/-- An alias that is bound to one index leads to it. -/
theorem currentTarget_of_singleton (hreached : store.faults.unavailable = false)
    (h : store.aliases.targets aliasName = [index]) :
    store.currentTarget aliasName = .ok (.bound index) := by
  rw [currentTarget, aliasTargets, available, hreached]
  simp [h, bind, Except.bind, pure, Except.pure]

/-- An alias that is bound to several indices leads nowhere. -/
theorem currentTarget_of_several (hreached : store.faults.unavailable = false)
    (h : 2 ≤ (store.aliases.targets aliasName).length) :
    store.currentTarget aliasName =
      .error (.ambiguousAlias aliasName (store.aliases.targets aliasName)) := by
  rw [currentTarget, aliasTargets, available, hreached]
  generalize store.aliases.targets aliasName = targets at h
  rcases targets with _ | ⟨first, _ | ⟨second, rest⟩⟩
  · cases h
  · exact absurd h (by simp)
  · rfl

/-- No item is written through an alias that is bound to several indices. -/
theorem failure_of_several {item : BulkItem}
    (h : 2 ≤ (store.aliases.targets item.index).length) :
    (store.itemResult item).failure = some (.severalIndices item.index) := by
  rw [itemResult, writeItem, AliasTable.writeTarget_of_several h]

end Store

/-! ## Moves one after the other -/

namespace AliasMove

variable {move : AliasMove} {desk : Desk}

/-- A move is carried out, or it fails and leaves the store as it was. -/
theorem perform_cases (move : AliasMove) (desk : Desk) :
    (desk.store.CarriesOut move ∧ ∃ after, Effect.on move.perform desk = (.ok (), after) ∧
        after.store = desk.store.moved move) ∨
      ¬ desk.store.CarriesOut move ∧ ∃ e after, Effect.on move.perform desk = (.error e, after) ∧
        after.store = desk.store := by
  have hadded : move.actions.filterMap AliasAction.added? = [move.new] := by
    rw [actions]
    cases move.old <;> rfl
  simp only [perform, Deployment.cutover, Effect.on_bind, Action.on_onStore]
  rw [← actions, Store.on_updateAliases, hadded]
  simp only [Store.CarriesOut, List.find?_singleton]
  cases desk.store.faults.unavailable with
  | true => exact .inr ⟨by simp, _, _, rfl, rfl⟩
  | false =>
    cases desk.store.indices.contains move.new with
    | false => exact .inr ⟨by simp, _, _, rfl, rfl⟩
    | true =>
      cases desk.store.faults.acknowledgesAliases with
      | false => exact .inr ⟨by simp, _, _, rfl, rfl⟩
      | true => exact .inl ⟨by simp, _, rfl, rfl⟩

theorem perform_eq_ok_iff :
    (Effect.on move.perform desk).1 = .ok () ↔ desk.store.CarriesOut move := by
  rcases move.perform_cases desk with ⟨hcarries, after, hrun, -⟩ | ⟨hfails, e, after, hrun, -⟩
  · exact iff_of_true (by rw [hrun]) hcarries
  · refine iff_of_false (fun h => ?_) hfails
    rw [hrun] at h
    cases h

end AliasMove

namespace Desk

variable {desk : Desk}

/-- The desk after some moves, one after the other. -/
def afterMoves (desk : Desk) (moves : List AliasMove) : Desk :=
  moves.foldl (fun desk move => (Effect.on move.perform desk).2) desk

theorem afterMoves_append_singleton (desk : Desk) (moves : List AliasMove) (move : AliasMove) :
    desk.afterMoves (moves ++ [move]) = (Effect.on move.perform (desk.afterMoves moves)).2 := by
  rw [afterMoves, List.foldl_append]
  rfl

/-- **A move keeps aliases unambiguous exactly if it fits or is not carried out.** -/
theorem unambiguous_step_iff (h : desk.store.Unambiguous) (move : AliasMove) :
    (Effect.on move.perform desk).2.store.Unambiguous ↔
      (desk.store.CarriesOut move → desk.store.Fits move) := by
  rcases move.perform_cases desk with
    ⟨hcarries, after, hrun, hafter⟩ | ⟨hfails, e, after, hrun, hafter⟩
  · rw [hrun]
    dsimp only
    rw [hafter, Store.unambiguous_moved_iff h]
    exact ⟨fun hfits _ => hfits, fun hfits => hfits hcarries⟩
  · rw [hrun]
    dsimp only
    rw [hafter]
    exact iff_of_true h fun hcarries => absurd hcarries hfails

/-- **A sequence of moves keeps aliases unambiguous exactly if each move fits** that is carried
out. -/
theorem unambiguous_throughout_iff (h : desk.store.Unambiguous) (moves : List AliasMove) :
    (∀ before, before <+: moves → (desk.afterMoves before).store.Unambiguous) ↔
      ∀ before move, before ++ [move] <+: moves →
        (desk.afterMoves before).store.CarriesOut move →
          (desk.afterMoves before).store.Fits move := by
  constructor
  · intro hall before move hprefix
    have hbefore := hall before ((List.prefix_append _ _).trans hprefix)
    have hafter := hall _ hprefix
    rw [afterMoves_append_singleton] at hafter
    exact (unambiguous_step_iff hbefore move).mp hafter
  · intro hfits before
    induction before using List.reverseRecOn with
    | nil => exact fun _ => h
    | append_singleton before move ih =>
      intro hprefix
      rw [afterMoves_append_singleton]
      exact (unambiguous_step_iff (ih ((List.prefix_append _ _).trans hprefix)) move).mpr
        (hfits before move hprefix)

end Desk

/-! ## What a move comes to -/

namespace Deployment

variable {d : Deployment} {desk : Desk}

/-- The failure of everything that asks where the alias of the deployment leads. -/
def ambiguity (d : Deployment) (store : Store) : Failure :=
  .ambiguousAlias d.naming.writeAlias (store.aliases.targets d.naming.writeAlias)

/-- The deployment stands still. -/
structure Stuck (d : Deployment) (desk : Desk) : Prop where
  /-- it does not start -/
  setup : Effect.on d.setup desk = (.error (d.ambiguity desk.store), desk)
  /-- it does not rotate -/
  cycle : ∃ after, Effect.on d.cycle desk = (.error (d.ambiguity desk.store), after) ∧
    after.store = desk.store
  /-- it does not sweep -/
  sweep : Effect.on d.sweep desk = (.error (d.ambiguity desk.store), desk)
  /-- no item is written through its alias -/
  items : ∀ item : BulkItem, item.index = d.naming.writeAlias →
    (desk.store.itemResult item).failure = some (.severalIndices d.naming.writeAlias)

/-- **With an alias of several indices a deployment stands still.** -/
theorem stuck_of_several (d : Deployment) (hreached : desk.store.faults.unavailable = false)
    (h : 2 ≤ (desk.store.aliases.targets d.naming.writeAlias).length) : d.Stuck desk := by
  have htarget := Store.currentTarget_of_several hreached h
  have hcurrent : d.currentIndex desk.store = .error (d.ambiguity desk.store) := by
    rw [currentIndex, htarget]
    rfl
  exact
    { setup := by
        simp only [setup, Effect.on_bind, Action.on_ask, htarget]
        rfl
      cycle := by
        have hrotate : Effect.on d.rotate desk = (.error (d.ambiguity desk.store), desk) := by
          simp only [rotate, Effect.on_bind, Action.on_ask, htarget]
          rfl
        rcases d.cycle_cases desk with
          ⟨new, after, hok, -⟩ | ⟨e, failed, after, hfailed, -, hstore, hcycle⟩
        · rw [hrotate] at hok
          cases hok
        · rw [hrotate] at hfailed
          cases hfailed
          exact ⟨after, hcycle, hstore⟩
      sweep := by
        simp only [sweep, Effect.on_bind, Action.on_ask, hcurrent]
      items := by
        intro item hitem
        rw [← hitem] at h ⊢
        exact Store.failure_of_several h }

end Deployment

namespace AliasMove

/-- What a move has come to that succeeded. -/
structure Made (move : AliasMove) (store : Store) (after : Desk) : Prop where
  /-- the alias is bound to the new index, and to what it was bound to besides the one given as the
  old index -/
  targets : ∀ index, index ∈ after.store.aliases.targets move.aliasName ↔
    index = move.new ∨ index ∈ store.aliases.targets move.aliasName ∧ move.old ≠ some index
  /-- so it is bound to the new index only exactly if the move fits what it was bound to -/
  only : after.store.aliasTargets move.aliasName = .ok [move.new] ↔ store.Fits move
  /-- exactly then it leads to the new index -/
  leads : after.store.currentTarget move.aliasName = .ok (.bound move.new) ↔ store.Fits move
  /-- otherwise the deployments of that alias stand still -/
  stuck : ¬ store.Fits move → ∀ d : Deployment, d.naming.writeAlias = move.aliasName →
    d.Stuck after
  /-- all other aliases are bound as before -/
  others : ∀ other, other ≠ move.aliasName →
    after.store.aliases.targets other = store.aliases.targets other
  /-- nothing else of the store has changed -/
  rest : after.store = { store with aliases := after.store.aliases }

theorem made {move : AliasMove} {store : Store} {after : Desk}
    (hreached : store.faults.unavailable = false) (hafter : after.store = store.moved move) :
    move.Made store after := by
  have hreached' : after.store.faults.unavailable = false := by
    rw [hafter]
    exact hreached
  have hseveral : ¬ store.Fits move →
      2 ≤ (after.store.aliases.targets move.aliasName).length := by
    rw [hafter]
    exact Store.two_le_length_of_not_fits
  exact
    { targets := fun index => by
        rw [hafter]
        exact Store.mem_targets_moved
      only := by
        rw [← Store.targets_moved_iff, ← hafter, Store.aliasTargets, Store.available, hreached']
        simp [bind, Except.bind, pure, Except.pure]
      leads := by
        constructor
        · intro htarget
          by_contra hfits
          rw [Store.currentTarget_of_several hreached' (hseveral hfits)] at htarget
          cases htarget
        · intro hfits
          refine Store.currentTarget_of_singleton hreached' ?_
          rw [hafter, Store.targets_moved_iff.mpr hfits]
      stuck := by
        intro hfits d halias
        have h := hseveral hfits
        rw [← halias] at h
        exact d.stuck_of_several hreached' h
      others := fun other hother => by
        rw [hafter]
        exact Store.targets_moved_of_ne hother
      rest := by
        rw [hafter]
        rfl }

end AliasMove

/-- A move from what the alias leads to fits. -/
theorem Store.fits_of_currentTarget {store : Store} {move : AliasMove} {target : Target}
    (h : store.currentTarget move.aliasName = .ok target) (hold : move.old = target.index?) :
    store.Fits move := by
  intro index hindex
  rw [Store.targets_of_currentTarget h, ← hold, Option.mem_toList] at hindex
  exact .inr hindex

namespace Deployment

/-- **What moving an alias comes to.** On every store, a move succeeds exactly if the store can be
reached, has the new index and confirms changes of aliases; a move that fails changes nothing. A
move that succeeds leaves the alias bound to the new index only, and leading there, exactly if the
alias was bound to nothing but the index given as the old one and the new one, and in particular if
what the alias leads to is given; otherwise the alias is bound to several indices and the
deployments of that alias stand still. If every alias is bound to one index at most, this stays so
through a sequence of moves exactly if each move fits in this sense that is carried out. -/
theorem cutover_exact (move : AliasMove) (desk : Desk) :
    ((Effect.on move.perform desk).1 = .ok () ↔ desk.store.CarriesOut move) ∧
      (∀ e after, Effect.on move.perform desk = (.error e, after) → after.store = desk.store) ∧
      (∀ after, Effect.on move.perform desk = (.ok (), after) → move.Made desk.store after) ∧
      (∀ target, desk.store.currentTarget move.aliasName = .ok target →
        move.old = target.index? → desk.store.Fits move) ∧
      (desk.store.Unambiguous → ∀ moves : List AliasMove,
        (∀ before, before <+: moves → (desk.afterMoves before).store.Unambiguous) ↔
          ∀ before next, before ++ [next] <+: moves →
            (desk.afterMoves before).store.CarriesOut next →
              (desk.afterMoves before).store.Fits next) := by
  refine ⟨AliasMove.perform_eq_ok_iff, fun e after hrun => ?_, fun after hrun => ?_,
    fun target => Store.fits_of_currentTarget, Desk.unambiguous_throughout_iff⟩
  · rcases move.perform_cases desk with ⟨-, last, hdone, -⟩ | ⟨-, e', last, hfailed, hlast⟩
    · rw [hdone] at hrun
      cases hrun
    · rw [hfailed] at hrun
      cases hrun
      exact hlast
  · rcases move.perform_cases desk with ⟨hcarries, last, hdone, hlast⟩ | ⟨-, e, last, hfailed, -⟩
    · rw [hdone] at hrun
      cases hrun
      exact AliasMove.made hcarries.1 hlast
    · rw [hfailed] at hrun
      cases hrun

/-- A store with three rotated indices; the alias was moved from the first to the second. -/
def boundStore : Store :=
  .run [.operation (.create "logs_0" { shards := 1, replicas := 0 }),
    .operation (.create "logs_1" { shards := 1, replicas := 0 }),
    .operation (.create "logs_2" { shards := 1, replicas := 0 }),
    .operation (.updateAliases [.add "logs_0" "logs_deflector"]),
    .operation (.updateAliases [.remove "logs_0" "logs_deflector",
      .add "logs_1" "logs_deflector"])]

/-- A move without an old index, or with the one that the alias was bound to before, succeeds and
leaves the alias bound to two indices, so that the deployment of the alias neither starts nor
rotates nor sweeps and no item is written through the alias. -/
theorem cutover_leaves_several :
    ¬ (∀ (store : Store) (move : AliasMove) (after : Desk), store.Reachable →
        Effect.on move.perform { store } = (.ok (), after) →
          after.store.aliasTargets move.aliasName = .ok [move.new]) ∧
      boundStore.Reachable ∧
      ∀ old ∈ [none, some "logs_0"],
        (Effect.on (cutover "logs_deflector" "logs_2" old) { store := boundStore }).1 = .ok () ∧
        Store.aliasTargets
          (Effect.on (cutover "logs_deflector" "logs_2" old) { store := boundStore }).2.store
            "logs_deflector" = .ok ["logs_1", "logs_2"] ∧
        Store.currentTarget
          (Effect.on (cutover "logs_deflector" "logs_2" old) { store := boundStore }).2.store
            "logs_deflector" = .error (.ambiguousAlias "logs_deflector" ["logs_1", "logs_2"]) ∧
        Stuck (.named "logs" "logs_recent")
          (Effect.on (cutover "logs_deflector" "logs_2" old) { store := boundStore }).2 := by
  have hreachable : boundStore.Reachable := .run _
  refine ⟨fun h => ?_, hreachable, ?_⟩
  · have htargets := h boundStore ⟨"logs_deflector", "logs_2", some "logs_0"⟩ _ hreachable
      (Prod.ext rfl rfl)
    have hnames := congrArg Except.toOption htargets
    revert hnames
    decide
  · simp only [List.forall_mem_cons]
    exact ⟨⟨rfl, rfl, rfl, stuck_of_several _ rfl (by decide)⟩,
      ⟨rfl, rfl, rfl, stuck_of_several _ rfl (by decide)⟩, nofun⟩

end Deployment

end RollingIndex
