import LogConsumer.Proofs.Dispatcher.Staffing

/-!
# Progress of a dispatcher

A dispatcher has finitely many moves to make, whichever it makes first (`Dispatcher.Move.fewer`).
Making them while there are any is a run of moves (`Dispatcher.settle_moves`), and where none is
left there is no job but for those that are held and those that wait for their workers
(`Dispatcher.jobs_eq_nil_of_settled`).
-/
namespace LogConsumer

variable {σ α β : Type}

namespace Dispatcher

variable {workers limit : Nat} {dispatcher between dispatcher' : Dispatcher σ α}
  {state state₁ state' : σ} {history notices later : List (Notice σ α)}

section TakeFirst

variable {test : β → Bool} {items rest : List β} {found : β}

/-- What is taken out of a list satisfies the test, and the others stay in order. -/
theorem takeFirst?_eq_some (taken : takeFirst? test items = some (found, rest)) :
    test found = true ∧ ∃ before after, items = before ++ found :: after ∧
      rest = before ++ after := by
  induction items generalizing rest with
  | nil => cases taken
  | cons item items goesOn =>
    rw [takeFirst?] at taken
    split at taken
    · rename_i passes
      cases taken
      exact ⟨passes, [], items, rfl, rfl⟩
    · obtain ⟨⟨other, others⟩, further, same⟩ := Option.map_eq_some_iff.mp taken
      cases same
      obtain ⟨passes, before, after, whole, left⟩ := goesOn further
      refine ⟨passes, item :: before, after, ?_, ?_⟩
      · rw [whole, List.cons_append]
      · rw [left, List.cons_append]

/-- Where nothing is taken out of a list, nothing satisfies the test. -/
theorem takeFirst?_eq_none (nothing : takeFirst? test items = none) :
    ∀ item ∈ items, test item = false := by
  induction items with
  | nil => exact fun _ member => absurd member List.not_mem_nil
  | cons item items goesOn =>
    rw [takeFirst?] at nothing
    split at nothing
    · cases nothing
    · rename_i fails
      have others := goesOn (Option.map_eq_none_iff.mp nothing)
      exact List.forall_mem_cons.mpr ⟨Bool.eq_false_iff.mpr fails, others⟩

end TakeFirst

/-- A job with a worker hands its result over. -/
theorem conclude_of_pooled {job : Job σ α} (pooled : job.pooled = true) (ending : Ending α) :
    dispatcher.conclude job ending =
      dispatcher.settleResult job.destination ending.result := by
  cases ending <;> simp [conclude, Job.outcome?, pooled]

/-- A job that answers hands its answer over. -/
theorem conclude_returned (job : Job σ α) (result : Except ConsumerError α) :
    dispatcher.conclude job (.returned result) =
      dispatcher.settleResult job.destination result := by
  cases pooled : job.pooled <;> simp [conclude, Job.outcome?, pooled, Ending.result]

/-- A job that breaks off without a worker hands nothing over. -/
theorem conclude_silent {job : Job σ α} (apart : job.pooled = false) :
    dispatcher.conclude job .panicked = dispatcher := by
  simp [conclude, Job.outcome?, apart]

/-- What the dispatcher does next is one of its moves. -/
theorem step?_move (staffed : Staffed workers dispatcher)
    (next : dispatcher.step? state = some (dispatcher', state')) :
    ∃ notices, Move dispatcher state notices dispatcher' state' := by
  rw [step?.eq_def] at next
  split at next
  · rename_i job rest submitted
    have found : dispatcher.submitted = [] ++ job :: rest := submitted
    cases pooled : job.pooled with
    | true =>
      rw [pooled, if_pos rfl] at next
      cases next
      exact ⟨_, .asks found pooled fun _ member => absurd member List.not_mem_nil⟩
    | false =>
      have move : Move dispatcher state _ _ _ := .endsApart found pooled
      rw [pooled, if_neg Bool.false_ne_true] at next
      cases acted : job.action state with
      | mk ending between =>
        rw [acted] at next move
        cases ending with
        | returned result =>
          cases next
          rw [conclude_returned] at move
          exact ⟨_, move⟩
        | panicked =>
          cases next
          rw [conclude_silent pooled] at move
          exact ⟨_, move⟩
  · split at next
    · cases next
    · rename_i job rest taken
      cases next
      obtain ⟨free, before, after, found, rfl⟩ := takeFirst?_eq_some taken
      have pooled := staffed.running job (by rw [found]; exact List.mem_append_right _ (.head _))
      have move : Move dispatcher state _ _ _ := .ends found (by simpa using free) pooled
      rw [conclude_of_pooled pooled] at move
      exact ⟨_, move⟩

/-- Where the dispatcher has no next move, all jobs have asked for a worker, and those that have one
are held. -/
theorem held_of_settled (settled : dispatcher.step? state = none) :
    dispatcher.submitted = [] ∧ ∀ job ∈ dispatcher.running, job.held = true := by
  rw [step?.eq_def] at settled
  split at settled
  · split at settled
    · cases settled
    · split at settled <;> cases settled
  · rename_i submitted
    split at settled
    · rename_i nothing
      exact ⟨submitted, fun job member => by simpa using takeFirst?_eq_none nothing job member⟩
    · cases settled

/-- Every move leaves fewer moves to make. -/
theorem Move.fewer (move : Move dispatcher state notices dispatcher' state') :
    dispatcher'.movesLeft < dispatcher.movesLeft := by
  cases move with
  | @asks before after job found _ _ =>
    unfold askForWorker movesLeft
    rw [found]
    split <;> simp only [List.length_append, List.length_cons, List.length_nil] <;> omega
  | ends found _ _ =>
    rw [handOver_eq]
    unfold movesLeft
    rw [found]
    cases dispatcher.waiting <;> simp
  | endsApart found _ =>
    unfold movesLeft
    rw [found]
    simp

namespace Run

/-- Moves are made by the dispatcher on its own: nothing comes in, nothing is taken back and nothing
is taken out. -/
theorem alone (moves : Run Move dispatcher state history dispatcher' state') :
    Notice.admissions history = [] ∧ Notice.withdrawals history = [] ∧
      Notice.takes history = [] := by
  induction moves with
  | refl => exact ⟨rfl, rfl, rfl⟩
  | head move _ goesOn =>
    obtain ⟨come, gone, taken⟩ := goesOn
    rw [Notice.admissions_append, Notice.withdrawals_append, Notice.takes_append, come, gone, taken]
    cases move <;> exact ⟨rfl, rfl, rfl⟩

/-- Moves lose no job. -/
theorem jobs (moves : Run Move dispatcher state history dispatcher' state') :
    dispatcher.jobs.Perm (Notice.performed history ++ dispatcher'.jobs) := by
  induction moves with
  | refl => exact .refl _
  | head move _ goesOn =>
    rw [Notice.performed_append, List.append_assoc]
    exact move.jobs.trans (goesOn.append_left _)

end Run

/-- Making moves while there are any is a run of moves after which there is none. -/
theorem settleWithin_moves (staffed : Staffed workers dispatcher)
    (enough : dispatcher.movesLeft ≤ limit) : ∃ history,
    Run Move dispatcher state history (settleWithin limit dispatcher state).1
      (settleWithin limit dispatcher state).2 ∧
    (settleWithin limit dispatcher state).1.step?
      (settleWithin limit dispatcher state).2 = none := by
  -- The limit bounds the moves that are left, and every move leaves fewer.
  induction limit generalizing dispatcher state with
  | zero =>
    refine ⟨[], .refl, ?_⟩
    cases next : dispatcher.step? state with
    | none => exact next
    | some after =>
      obtain ⟨notices, move⟩ := step?_move staffed next
      have fewer := move.fewer
      omega
  | succ limit goesOn =>
    rw [settleWithin]
    cases next : dispatcher.step? state with
    | none => exact ⟨[], .refl, next⟩
    | some after =>
      obtain ⟨notices, move⟩ := step?_move staffed next
      have fewer := move.fewer
      obtain ⟨history, moves, settled⟩ := @goesOn after.1 after.2 (move.staffed staffed) (by omega)
      exact ⟨notices ++ history, .head move moves, settled⟩

/-- The dispatcher makes all its moves. -/
theorem settle_moves (staffed : Staffed workers dispatcher) (state : σ) : ∃ history,
    Run Move dispatcher state history (dispatcher.settle state).1 (dispatcher.settle state).2 ∧
    (dispatcher.settle state).1.step? (dispatcher.settle state).2 = none :=
  settleWithin_moves staffed (Nat.le_refl _)

/-- Where the dispatcher has no next move and holds no job, there is no job. -/
theorem jobs_eq_nil_of_settled (staffed : Staffed workers dispatcher) (some : 0 < workers)
    (settled : dispatcher.step? state = none)
    (free : ∀ job ∈ dispatcher.jobs, job.held = false) : dispatcher.jobs = [] := by
  obtain ⟨submitted, held⟩ := held_of_settled settled
  have running : dispatcher.running = [] := by
    rw [List.eq_nil_iff_forall_not_mem]
    intro job member
    have released := free job (List.mem_append_right _ member)
    rw [held job member] at released
    cases released
  have waiting : dispatcher.waiting = [] := by
    by_contra waits
    have full := staffed.busy waits
    rw [running, List.length_nil] at full
    omega
  rw [jobs, submitted, waiting, running]
  rfl

end Dispatcher

end LogConsumer
