import LogConsumer.Proofs.Actions

/-!
# Actions that fail

An action is atomic for a view of the state if, where it fails, the view is the same as before. A
failure may come anywhere in an action, so an action is atomic if all that comes before its last
possible failure keeps the view: what goes first keeps it (`Atomic.bind`), or what follows cannot
fail any more (`Atomic.settled`).
-/
namespace LogConsumer

variable {σ α β ε ν : Type} {view : σ → ν} {state : σ}

/-- From this state the action does not fail. -/
def Succeeds (action : ExceptT ε (StateM σ) α) (state : σ) : Prop :=
  ∀ error, (action.run state).1 ≠ .error error

/-- If the action fails from this state, the view is the same afterwards as before. -/
def Atomic (view : σ → ν) (action : ExceptT ε (StateM σ) α) (state : σ) : Prop :=
  ∀ error, (action.run state).1 = .error error → view (action.run state).2 = view state

namespace Succeeds

/-- Answering does not fail. -/
theorem pure (value : α) : Succeeds (Pure.pure value : ExceptT ε (StateM σ) α) state :=
  nofun

/-- What cannot fail does not fail. -/
theorem certain (action : StateM σ α) :
    Succeeds (liftM action : ExceptT ε (StateM σ) α) state :=
  nofun

/-- What cannot fail, before what does not fail from where it ends, does not fail. -/
theorem lift {first : StateM σ α} {rest : α → ExceptT ε (StateM σ) β}
    (after : Succeeds (rest (first state).1) (first state).2) :
    Succeeds (liftM first >>= rest : ExceptT ε (StateM σ) β) state :=
  after

end Succeeds

namespace Atomic

/-- After a failure of an atomic action the view is what it was. -/
theorem unmoved {action : ExceptT ε (StateM σ) α} {state' : σ} {error : ε}
    (atomic : Atomic view action state) (failed : action.run state = (.error error, state')) :
    view state' = view state := by
  have same := atomic error (congrArg Prod.fst failed)
  rwa [failed] at same

/-- An action that keeps the view is atomic. -/
theorem of_keeps {action : ExceptT ε (StateM σ) α} (kept : Keeps view action.run) :
    Atomic view action state :=
  fun _ _ => kept state

/-- An action that does not fail is atomic. -/
theorem of_succeeds {action : ExceptT ε (StateM σ) α} (sure : Succeeds action state) :
    Atomic view action state :=
  fun error failed => absurd failed (sure error)

/-- Answering is atomic. -/
theorem pure (value : α) : Atomic view (Pure.pure value : ExceptT ε (StateM σ) α) state :=
  of_keeps (.pure _)

/-- Failing is atomic. -/
theorem throw (error : ε) :
    Atomic view (MonadExcept.throw error : ExceptT ε (StateM σ) α) state :=
  of_keeps (.throw error)

/-- An action that keeps the view may go first. -/
theorem bind {first : ExceptT ε (StateM σ) α} {rest : α → ExceptT ε (StateM σ) β}
    (before : Keeps view first.run)
    (after : ∀ value state', first.run state = (.ok value, state') →
      Atomic view (rest value) state') : Atomic view (first >>= rest) state := by
  intro error failed
  cases ran : first.run state with
  | mk outcome between =>
    have unmoved : view between = view state := by
      rw [← before state, ran]
    cases outcome with
    | error cause =>
      rw [run_bind_error ran]
      exact unmoved
    | ok value =>
      rw [run_bind_ok ran] at failed ⊢
      exact (after value between ran error failed).trans unmoved

/-- After an atomic action may come what does not fail any more. -/
theorem settled {first : ExceptT ε (StateM σ) α} {rest : α → ExceptT ε (StateM σ) β}
    (before : Atomic view first state) (after : ∀ value state', Succeeds (rest value) state') :
    Atomic view (first >>= rest) state := by
  intro error failed
  cases ran : first.run state with
  | mk outcome between =>
    cases outcome with
    | error cause =>
      rw [run_bind_error ran]
      exact before.unmoved ran
    | ok value =>
      rw [run_bind_ok ran] at failed
      exact absurd failed (after value between error)

/-- What keeps the view and cannot fail may go first. -/
theorem lift {first : StateM σ α} {rest : α → ExceptT ε (StateM σ) β} (before : Keeps view first)
    (after : Atomic view (rest (first state).1) (first state).2) :
    Atomic view (liftM first >>= rest : ExceptT ε (StateM σ) β) state :=
  fun error failed => (after error failed).trans (before state)

/-- Reading the state may go first. -/
theorem get {rest : σ → ExceptT ε (StateM σ) β} (after : Atomic view (rest state) state) :
    Atomic view (MonadState.get >>= rest) state :=
  after

/-- Either of two atomic actions is atomic. -/
theorem either {condition : Prop} [Decidable condition] {left right : ExceptT ε (StateM σ) α}
    (yes : Atomic view left state) (no : Atomic view right state) :
    Atomic view (if condition then left else right) state := by
  split
  · exact yes
  · exact no

end Atomic

end LogConsumer
