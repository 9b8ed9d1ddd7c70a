import LogConsumer.Proofs.Actions
import LogConsumer.Width

/-!
# Machines that check their arithmetic

An action computes with integers of any size. A machine stores each number it computes in a width
(`Width.checked`), and stops for good where one does not fit, where an index has no element, or
where the bounds of a range are crossed: then nothing comes of it, neither an answer nor a state. A
machine follows an action from a state if it does not stop and ends with the same answer in the same
state. What its parts follow, a machine follows (`Machine.Follows.bind`, `Machine.Follows.andThen`).
-/
namespace LogConsumer

namespace Width

/-- A number as it is stored in a width; nothing where it does not fit. -/
def checked (width : Width) (number : Int) : Option Int :=
  if width.holds number then some number else none

/-- A number that fits a width is stored as it is. -/
theorem checked_of_holds {width : Width} {number : Int} (fits : width.holds number = true) :
    width.checked number = some number :=
  if_pos fits

/-- The bounds of 64 bits with sign. -/
theorem int64_holds_iff (number : Int) :
    int64.holds number = true ↔ -9223372036854775808 ≤ number ∧ number < 9223372036854775808 :=
  holds_iff int64 number

/-- The bounds of 64 bits without sign. -/
theorem word64_holds_iff (number : Int) :
    word64.holds number = true ↔ 0 ≤ number ∧ number < 18446744073709551616 :=
  holds_iff word64 number

end Width

/-- With a number that is computed right a computation goes on. -/
theorem bind_of_eq_some {α β : Type} {computed : Option α} {value : α}
    (right : computed = some value) (rest : α → Option β) : (computed >>= rest) = rest value := by
  rw [right]
  rfl

/-- What is computed right of each item is computed right of all. -/
theorem mapM_eq_some {α β : Type} {computed : α → Option β} {value : α → β} {items : List α}
    (right : ∀ item ∈ items, computed item = some (value item)) :
    items.mapM computed = some (items.map value) := by
  induction items with
  | nil => rfl
  | cons item items ih =>
    obtain ⟨here, later⟩ := List.forall_mem_cons.mp right
    rw [List.mapM_cons, bind_of_eq_some here, bind_of_eq_some (ih later)]
    rfl

/-- What a machine does with a state: it answers and leaves a state, or it stops. -/
abbrev Machine (σ : Type) := StateT σ Option

namespace Machine

variable {σ α β ε : Type}

/-- An action that computes nothing, as a machine does it. -/
def ofAction (action : StateM σ α) : Machine σ α :=
  fun state => some (action state)

/-- An action that computes nothing and may fail, as a machine does it. -/
def ofFallible (action : ExceptT ε (StateM σ) α) : ExceptT ε (Machine σ) α :=
  ExceptT.mk (ofAction action.run)

/-- The machine does not stop, and does with the state what the action does. -/
def Follows (machine : Machine σ α) (action : StateM σ α) (state : σ) : Prop :=
  machine state = some (action state)

namespace Follows

variable {state : σ}

/-- An action that computes nothing is followed. -/
theorem ofAction (action : StateM σ α) : Follows (Machine.ofAction action) action state :=
  rfl

/-- An answer is followed. -/
theorem pure (value : α) : Follows (Pure.pure value) (Pure.pure value) state :=
  rfl

/-- A machine follows two actions in order if its parts do. -/
theorem bind {machine : Machine σ α} {rest : α → Machine σ β} {action : StateM σ α}
    {after : α → StateM σ β} (first : Follows machine action state)
    (second : Follows (rest (action state).1) (after (action state).1) (action state).2) :
    Follows (machine >>= rest) (action >>= after) state := by
  calc (machine >>= rest) state
    _ = (machine state).bind fun result => rest result.1 result.2 := rfl
    _ = rest (action state).1 (action state).2 := by rw [first, Option.bind_some]
    _ = some ((action >>= after) state) := second

/-- A machine that reads the state first follows what does so too. -/
theorem reading {rest : σ → Machine σ α} {after : σ → StateM σ α}
    (same : Follows (rest state) (after state) state) :
    Follows (MonadState.get >>= rest) (MonadState.get >>= after) state :=
  same

/-- A machine that changes the state first follows what does so too. -/
theorem changing {update : σ → σ} {rest : PUnit → Machine σ α} {after : PUnit → StateM σ α}
    (same : Follows (rest ⟨⟩) (after ⟨⟩) (update state)) :
    Follows (modify update >>= rest) (modify update >>= after) state :=
  same

/-- A number that is computed right is no difference. -/
theorem computing {computed : Option α} {value : α} (right : computed = some value)
    {rest : α → Machine σ β} {action : StateM σ β} (same : Follows (rest value) action state) :
    Follows (liftM computed >>= rest) action state := by
  subst right
  exact same

/-- A machine follows two actions that may fail, in order, if its first part follows the first one
and its second part the second one where the first one succeeds. -/
theorem andThen {machine : ExceptT ε (Machine σ) α} {rest : α → ExceptT ε (Machine σ) β}
    {action : ExceptT ε (StateM σ) α} {after : α → ExceptT ε (StateM σ) β}
    (first : Follows machine.run action.run state)
    (second : ∀ value between, action.run state = (.ok value, between) →
      Follows (rest value).run (after value).run between) :
    Follows (machine >>= rest).run (action >>= after).run state := by
  rw [ExceptT.run_bind, ExceptT.run_bind]
  refine .bind first ?_
  cases ran : action.run state with
  | mk outcome between =>
    cases outcome with
    | ok value => exact second value between ran
    | error error => exact .pure _

/-- An action that computes nothing and may fail is followed. -/
theorem ofFallible (action : ExceptT ε (StateM σ) α) :
    Follows (Machine.ofFallible action).run action.run state :=
  rfl

/-- A failure is followed. -/
theorem throw (error : ε) :
    Follows (throw error : ExceptT ε (Machine σ) α).run
      (throw error : ExceptT ε (StateM σ) α).run state :=
  rfl

/-- A machine that reads the state first follows what does so too, also where it may fail. -/
theorem readingThen {rest : σ → ExceptT ε (Machine σ) α} {after : σ → ExceptT ε (StateM σ) α}
    (same : Follows (rest state).run (after state).run state) :
    Follows (MonadState.get >>= rest).run (MonadState.get >>= after).run state :=
  same

/-- A number that is computed right is no difference, also in what may fail. -/
theorem computingThen {computed : Option α} {value : α} (right : computed = some value)
    {rest : α → ExceptT ε (Machine σ) β} {action : ExceptT ε (StateM σ) β}
    (same : Follows (rest value).run action.run state) :
    Follows (liftM computed >>= rest : ExceptT ε (Machine σ) β).run action.run state := by
  subst right
  exact same

end Follows

end Machine

end LogConsumer
