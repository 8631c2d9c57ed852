import RollingIndex.Failure

/-!
# Operations that may fail

An `Effect` is an operation on a state that ends with a value or a failure. What was changed before
a failure stays changed, so "a failure changes nothing" is a property that an operation may or may
not have.

`Effect.on` performs an operation on a state. The lemmas below say what it does with each way of
building an operation; proofs about operations use them and nothing else of the definition.
-/

namespace RollingIndex

universe u

/-- An operation on a state. -/
abbrev Effect (σ α : Type) := ExceptT Failure (StateM σ) α

namespace Effect

variable {σ α β : Type}

/-- The outcome of an operation on a state and the state after it. -/
def on (effect : Effect σ α) (state : σ) : Except Failure α × σ := (ExceptT.run effect).run state

@[simp] theorem on_pure (a : α) (s : σ) : on (pure a) s = (.ok a, s) := rfl

@[simp] theorem on_throw (e : Failure) (s : σ) : on (throw e : Effect σ α) s = (.error e, s) := rfl

@[simp] theorem on_bind (x : Effect σ α) (f : α → Effect σ β) (s : σ) :
    on (x >>= f) s = match on x s with
      | (.ok a, t) => on (f a) t
      | (.error e, t) => (.error e, t) := by
  show (match on x s with
    | (r, t) => on (ExceptT.mk (ExceptT.bindCont f r)) t) = _
  rcases on x s with ⟨_ | _, t⟩ <;> rfl

@[simp] theorem on_get (s : σ) : on (get : Effect σ σ) s = (.ok s, s) := rfl

@[simp] theorem on_set (t s : σ) : on (set t : Effect σ PUnit) s = (.ok ⟨⟩, t) := rfl

@[simp] theorem on_modify (f : σ → σ) (s : σ) :
    on (modify f : Effect σ PUnit) s = (.ok ⟨⟩, f s) := rfl

@[simp] theorem on_lift (x : Except Failure α) (s : σ) :
    on (liftM x : Effect σ α) s = (x, s) := rfl

@[simp] theorem on_tryCatch (x : Effect σ α) (handler : Failure → Effect σ α) (s : σ) :
    on (tryCatch x handler) s = match on x s with
      | (.ok a, t) => (.ok a, t)
      | (.error e, t) => on (handler e) t := by
  simp only [on, tryCatch, tryCatchThe, MonadExceptOf.tryCatch, ExceptT.tryCatch, ExceptT.run,
    ExceptT.mk, bind, StateT.bind, StateT.run]
  generalize x s = outcome
  rcases outcome with ⟨_ | _, t⟩ <;> rfl

@[simp] theorem on_ite (c : Prop) [Decidable c] (x y : Effect σ α) (s : σ) :
    on (if c then x else y) s = if c then on x s else on y s := by
  split <;> rfl

end Effect

end RollingIndex
