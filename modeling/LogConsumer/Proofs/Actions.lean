import Mathlib.Logic.Basic

/-!
# Actions on a state

How an action that may fail runs: two in order go on from where the first one succeeds
(`run_bind_ok`) and stop where it fails (`run_bind_error`).

An action keeps a view of the state if the view is the same after the action as before, from
every state and whatever the action answers. Views compare by equality, so what the parts of an
action keep, the whole keeps; a statement about an action is taken apart by `Keeps.bind` and
`Keeps.andThen` along the action's own lines.
-/
namespace LogConsumer

variable {σ α β ε ν : Type} {view : σ → ν}

/-- The second of two actions runs from where the first one ends. -/
theorem run_then (first : StateM σ α) (rest : α → StateM σ β) (state : σ) :
    (first >>= rest) state = rest (first state).1 (first state).2 :=
  rfl

/-- After a change of the state the rest of an action runs from the state changed. -/
theorem run_modify (update : σ → σ) (rest : PUnit → StateM σ α) (state : σ) :
    (modify update >>= rest) state = rest ⟨⟩ (update state) :=
  rfl

/-- An action that reads the state first runs from the same state, also where nothing can fail. -/
theorem run_read (rest : σ → StateM σ α) (state : σ) :
    (MonadState.get >>= rest) state = rest state state :=
  rfl

/-- An action that reads the state first runs from the same state. -/
theorem run_get {rest : σ → ExceptT ε (StateM σ) α} (state : σ) :
    (MonadState.get >>= rest).run state = (rest state).run state :=
  rfl

/-- After an action that cannot fail the rest goes on. -/
theorem run_lift (first : StateM σ α) (rest : α → ExceptT ε (StateM σ) β) (state : σ) :
    (liftM first >>= rest : ExceptT ε (StateM σ) β).run state =
      (rest (first state).1).run (first state).2 :=
  rfl

/-- After a success the rest of an action goes on. -/
theorem run_bind_ok {first : ExceptT ε (StateM σ) α} {rest : α → ExceptT ε (StateM σ) β}
    {state state' : σ} {value : α} (done : first.run state = (.ok value, state')) :
    (first >>= rest).run state = (rest value).run state' := by
  rw [ExceptT.run_bind, run_then, done]

/-- A failure ends an action. -/
theorem run_bind_error {first : ExceptT ε (StateM σ) α} {rest : α → ExceptT ε (StateM σ) β}
    {state state' : σ} {error : ε} (failed : first.run state = (.error error, state')) :
    (first >>= rest).run state = (.error error, state') := by
  rw [ExceptT.run_bind, run_then, failed]
  rfl

/-- An action that succeeds has two parts that do. -/
theorem run_bind_eq_ok {first : ExceptT ε (StateM σ) α} {rest : α → ExceptT ε (StateM σ) β}
    {state state' : σ} {answer : β} (done : (first >>= rest).run state = (.ok answer, state')) :
    ∃ value between, first.run state = (.ok value, between) ∧
      (rest value).run between = (.ok answer, state') := by
  cases ran : first.run state with
  | mk outcome between =>
    cases outcome with
    | ok value => exact ⟨value, between, rfl, (run_bind_ok ran).symm.trans done⟩
    | error error =>
      rw [run_bind_error ran] at done
      cases done

/-- An action followed by an answer ends where the action does. -/
theorem run_map (first : ExceptT ε (StateM σ) α) (reply : α → β) (state : σ) :
    (do pure (reply (← first)) : ExceptT ε (StateM σ) β).run state =
      ((first.run state).1.map reply, (first.run state).2) := by
  cases ran : first.run state with
  | mk outcome between =>
    cases outcome with
    | ok value =>
      rw [run_bind_ok ran]
      rfl
    | error error =>
      rw [run_bind_error ran]
      rfl

/-- What is done for one item after the other leads where the single items lead. -/
theorem run_forM (action : α → StateM σ PUnit) (items : List α) (state : σ) :
    (items.forM action state).2 = items.foldl (fun state item => (action item state).2) state := by
  induction items generalizing state with
  | nil => rfl
  | cons item items ih => exact ih (action item state).2

/-- What is done for one item after the other, with the answers: the first item comes first. -/
theorem run_mapM_cons (action : α → StateM σ β) (item : α) (items : List α) (state : σ) :
    (item :: items).mapM action state =
      ((action item state).1 :: (items.mapM action (action item state).2).1,
        (items.mapM action (action item state).2).2) := by
  rw [List.mapM_cons]
  rfl

/-- What acting for an item keeps up, acting for one item after the other keeps up. -/
theorem run_mapM_holds (holds : σ → Prop) {action : α → StateM σ β}
    (kept : ∀ item state, holds state → holds (action item state).2) (items : List α) {state : σ}
    (held : holds state) : holds (items.mapM action state).2 := by
  induction items generalizing state with
  | nil => exact held
  | cons item items ih =>
    rw [run_mapM_cons]
    exact ih (kept item state held)

/-- The view is the same after the action as before. -/
def Keeps (view : σ → ν) (action : StateM σ α) : Prop :=
  ∀ state, view (action state).2 = view state

namespace Keeps

/-- Answering without acting keeps every view. -/
theorem pure (value : α) : Keeps view (Pure.pure value : StateM σ α) :=
  fun _ => rfl

/-- Reading the state keeps every view. -/
theorem get : Keeps view (MonadState.get : StateM σ σ) :=
  fun _ => rfl

/-- A change that keeps the view state by state keeps it as an action. -/
theorem change {update : σ → σ} (unchanged : ∀ state, view (update state) = view state) :
    Keeps view (modify update : StateM σ PUnit) :=
  unchanged

/-- Two actions in order keep what both keep. -/
theorem bind {first : StateM σ α} {rest : α → StateM σ β} (before : Keeps view first)
    (after : ∀ value, Keeps view (rest value)) : Keeps view (first >>= rest) := by
  intro state
  calc view ((first >>= rest) state).2
    _ = view (rest (first state).1 (first state).2).2 := rfl
    _ = view (first state).2 := after _ _
    _ = view state := before state

/-- Either of two actions keeps what both keep. -/
theorem either {condition : Prop} [Decidable condition] {left right : StateM σ α}
    (yes : Keeps view left) (no : Keeps view right) :
    Keeps view (if condition then left else right) := by
  split
  · exact yes
  · exact no

/-- One action for each of many items keeps what all of them keep. -/
theorem mapM {action : α → StateM σ β} (each : ∀ item, Keeps view (action item))
    (items : List α) : Keeps view (items.mapM action) := by
  induction items with
  | nil => exact pure _
  | cons item items ih =>
    rw [List.mapM_cons]
    exact bind (each item) fun _ => bind ih fun _ => pure _

/-- Failing keeps every view. -/
theorem throw (error : ε) : Keeps view (throw error : ExceptT ε (StateM σ) α).run :=
  fun _ => rfl

/-- Two actions that may fail, in order, keep what both keep. -/
theorem andThen {first : ExceptT ε (StateM σ) α} {rest : α → ExceptT ε (StateM σ) β}
    (before : Keeps view first.run) (after : ∀ value, Keeps view (rest value).run) :
    Keeps view (first >>= rest).run := by
  rw [ExceptT.run_bind]
  apply bind before
  intro outcome
  cases outcome with
  | ok value => exact after value
  | error error => exact pure _

/-- What cannot fail, before what may fail, keeps what both keep. -/
theorem lift {first : StateM σ α} {rest : α → ExceptT ε (StateM σ) β} (before : Keeps view first)
    (after : ∀ value, Keeps view (rest value).run) :
    Keeps view (liftM first >>= rest : ExceptT ε (StateM σ) β).run :=
  bind before after

/-- Either of two actions that may fail keeps what both keep. -/
theorem eitherThen {condition : Prop} [Decidable condition] {left right : ExceptT ε (StateM σ) α}
    (yes : Keeps view left.run) (no : Keeps view right.run) :
    Keeps view (if condition then left else right).run := by
  split
  · exact yes
  · exact no

/-- An action that reads the state first keeps what the rest keeps where it was read. -/
theorem reading {rest : σ → ExceptT ε (StateM σ) α}
    (after : ∀ state, view ((rest state).run state).2 = view state) :
    Keeps view (MonadState.get >>= rest).run :=
  after

/-- An action that reads the state first keeps what the rest keeps, whatever is read. -/
theorem afterReading {rest : σ → ExceptT ε (StateM σ) α}
    (after : ∀ value, Keeps view (rest value).run) : Keeps view (MonadState.get >>= rest).run :=
  reading fun state => after state state

end Keeps

end LogConsumer
