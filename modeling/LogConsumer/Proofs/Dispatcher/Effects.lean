import LogConsumer.Proofs.Dispatcher.Progress

/-!
# What jobs do to the state they share

Only jobs act on the state of a dispatcher. Where each of its jobs, from every state, leads to a
related one, so does whatever the dispatcher does on its own (`ActsAs.settle`), and the jobs that
are left are among those that were there.
-/
namespace LogConsumer.Dispatcher

variable {σ α : Type} {workers : Nat} {dispatcher dispatcher' : Dispatcher σ α}
  {state state' : σ} {history notices : List (Notice σ α)} {relation : σ → σ → Prop}

/-- Every job leads from every state to a related one. -/
def ActsAs (relation : σ → σ → Prop) (dispatcher : Dispatcher σ α) : Prop :=
  ∀ job ∈ dispatcher.jobs, ∀ state, relation state (job.action state).2

namespace ActsAs

/-- A dispatcher with no job does nothing. -/
theorem ofWorkers (workers : Nat) : ActsAs relation (ofWorkers workers : Dispatcher σ α) :=
  fun _ member => absurd member List.not_mem_nil

/-- What comes in acts as the jobs that are there. -/
theorem submitted (acts : dispatcher.ActsAs relation) {job : Job σ α}
    (joins : ∀ state, relation state (job.action state).2) :
    ActsAs relation { dispatcher with submitted := dispatcher.submitted ++ [job] } := by
  intro other member
  obtain there | new := List.mem_append.mp ((jobs_submitted dispatcher job).mem_iff.mp member)
  · exact acts other there
  · obtain rfl := List.mem_singleton.mp new
    exact joins

/-- Jobs that are released act as they did. -/
theorem release (acts : dispatcher.ActsAs relation) : dispatcher.release.ActsAs relation := by
  intro job member
  rw [jobs_release] at member
  obtain ⟨held, there, rfl⟩ := List.mem_map.mp member
  exact acts held there

/-- A move leads to a related state, or leaves the state as it is. -/
theorem move (acts : dispatcher.ActsAs relation) (refl : ∀ state, relation state state)
    (move : Move dispatcher state notices dispatcher' state') :
    dispatcher'.ActsAs relation ∧ relation state state' := by
  have jobs := move.jobs
  refine ⟨fun job member => acts job (jobs.mem_iff.mpr (List.mem_append_right _ member)), ?_⟩
  cases move with
  | asks => exact refl state
  | ends => exact acts _ (jobs.mem_iff.mpr (List.mem_cons_self)) state
  | endsApart => exact acts _ (jobs.mem_iff.mpr (List.mem_cons_self)) state

/-- Moves lead to a related state. -/
theorem moves (acts : dispatcher.ActsAs relation) (refl : ∀ state, relation state state)
    (trans : ∀ first second third, relation first second → relation second third →
      relation first third) (moves : Run Move dispatcher state history dispatcher' state') :
    dispatcher'.ActsAs relation ∧ relation state state' := by
  induction moves with
  | refl => exact ⟨acts, refl _⟩
  | head first _ goesOn =>
    obtain ⟨still, here⟩ := acts.move refl first
    obtain ⟨last, later⟩ := goesOn still
    exact ⟨last, trans _ _ _ here later⟩

/-- All the moves that there are lead to a related state. -/
theorem settle (acts : dispatcher.ActsAs relation) (refl : ∀ state, relation state state)
    (trans : ∀ first second third, relation first second → relation second third →
      relation first third) (staffed : Staffed workers dispatcher) (state : σ) :
    Staffed workers (dispatcher.settle state).1 ∧ (dispatcher.settle state).1.ActsAs relation ∧
      relation state (dispatcher.settle state).2 := by
  obtain ⟨history, moves, _⟩ := settle_moves staffed state
  exact ⟨(Run.ofMoves moves).staffed staffed, acts.moves refl trans moves⟩

end ActsAs

end LogConsumer.Dispatcher
