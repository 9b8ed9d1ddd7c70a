import LogConsumer.Proofs.Dispatcher.Progress

/-!
# A dispatcher with one worker

With one worker a dispatcher is a queue. Whatever it does first, and however the work comes in while
other work is done, the results of what was submitted are those of acting on the state in the order
of submission, and so is the state (`Dispatcher.Run.serial`). Submitting some work and waiting for
all results is just acting in that order (`Dispatcher.drain_submitAll`).
-/
namespace LogConsumer

variable {σ α : Type}

/-- A job that is submitted under a tag to run on a worker. -/
def Job.ofWork (work : String × StateM σ (Ending α)) : Job σ α :=
  { destination := .queue work.1, action := work.2 }

/-- Act on the state, and answer as the owner is answered. -/
def Completion.ofWork (work : String × StateM σ (Ending α)) : StateM σ (Completion α) := do
  pure ⟨work.1, (← work.2).result⟩

namespace Notice

/-- What jobs submitted to run on a worker put into the owner's queue is what they answer, one after
the other. -/
theorem posts_of_acts {history : List (Notice σ α)} {done : List (String × StateM σ (Ending α))}
    {state state' : σ} (unposted : ∀ completion, .posted completion ∉ history)
    (jobs : (performed history).map Job.unheld = done.map Job.ofWork)
    (acts : (performed history).mapM Job.action state = (endings history, state')) :
    done.mapM Completion.ofWork state = (posts history, state') := by
  induction history generalizing done state with
  | nil =>
    obtain rfl := List.map_eq_nil_iff.mp jobs.symm
    exact congrArg (fun final => ([], final)) (Prod.mk.inj acts).2
  | cons notice history ih =>
    have later (completion : Completion α) : .posted completion ∉ history := fun member =>
      unposted completion (List.mem_cons_of_mem _ member)
    cases notice with
    | ended job ending =>
      obtain ⟨work, rest, rfl, same, others⟩ := List.map_eq_cons_iff.mp jobs.symm
      obtain ⟨destination, pooled, held, action⟩ := job
      cases same
      change (_ :: performed history).mapM Job.action state = _ at acts
      rw [run_mapM_cons] at acts
      obtain ⟨ends, final⟩ := Prod.mk.inj acts
      obtain ⟨answers, goesOn⟩ := List.cons.inj ends
      have answered := ih later others.symm (Prod.ext goesOn final)
      have first : Completion.ofWork work state = (⟨work.1, ending.result⟩, (work.2 state).2) := by
        rw [← answers]
        rfl
      rw [run_mapM_cons, first, answered]
      rfl
    | posted completion => exact absurd List.mem_cons_self (unposted completion)
    | admitted | withdrawn | taken => exact ih later jobs acts

section Admitted

variable (jobs : List (Job σ α))

end Admitted

end Notice

namespace Dispatcher

open Notice

variable {dispatcher dispatcher' : Dispatcher σ α} {state state' : σ}
  {history notices : List (Notice σ α)} {work : List (String × StateM σ (Ending α))}

/-- Work that is submitted to run on a worker is in the line. -/
theorem filter_isQueued_ofWork (work : List (String × StateM σ (Ending α))) :
    ((work.map Job.ofWork).filter Job.isQueued).map Job.unheld = work.map Job.ofWork := by
  rw [List.filter_eq_self.mpr, List.map_map]
  · rfl
  · exact List.forall_mem_map.mpr fun _ _ => rfl

/-- With one worker, what the owner gets for the work submitted, in whatever order the dispatcher
moves, is what acting in the order of submission answers, as far as it has come; and that is what
the state has come to. -/
theorem Run.serial (run : Run Step (ofWorkers 1) state history dispatcher state')
    (come : admissions history = work.map Job.ofWork)
    (unposted : ∀ completion, .posted completion ∉ history) :
    ∃ done left, work = done ++ left ∧ dispatcher.line = left.map Job.ofWork ∧
      done.mapM Completion.ofWork state = (takes history ++ dispatcher.completions, state') := by
  have accounts := run.accounts
  obtain ⟨_, queue⟩ := accounts.queue rfl
  have order := run.inOrder (staffed_ofWorkers 1)
  -- All that came in is to run on a worker, so all that ended did.
  have queued : (performed history).filter Job.isQueued = performed history := by
    refine List.filter_eq_self.mpr fun job member => ?_
    have there : job.unheld ∈ (admissions history).map Job.unheld :=
      accounts.jobs.mem_iff.mp (List.mem_map_of_mem
        (List.mem_append_left _ (List.mem_append_left _ member)))
    rw [come, List.map_map] at there
    obtain ⟨entry, _, same⟩ := List.mem_map.mp there
    exact (congrArg Job.isQueued same).symm
  unfold InOrder at order
  rw [queued, come, filter_isQueued_ofWork] at order
  obtain ⟨done, left, rfl, jobs, line⟩ := List.map_eq_append_iff.mp (Eq.symm order)
  refine ⟨done, left, rfl, line.symm, ?_⟩
  rw [posts_of_acts unposted jobs.symm accounts.acts, ← queue]
  rfl

/-- Without jobs the line is empty. -/
theorem line_eq_nil (idle : dispatcher.jobs = []) : dispatcher.line = [] := by
  rw [jobs, List.append_eq_nil_iff, List.append_eq_nil_iff] at idle
  obtain ⟨⟨submitted, waiting⟩, running⟩ := idle
  rw [line, submitted, waiting, running]
  rfl

/-- Work that asks for a worker as soon as it is submitted comes in. -/
theorem asks_run (asked : dispatcher.submitted = []) (entry : String × StateM σ (Ending α))
    (state : σ) : Run Step dispatcher state [.admitted (.ofWork entry)]
      (dispatcher.askForWorker (.ofWork entry)) state := by
  have found : (dispatcher.submit entry.1 entry.2).submitted = [] ++ Job.ofWork entry :: [] := by
    show dispatcher.submitted ++ [Job.ofWork entry] = _
    rw [asked]
  have asks : Move (dispatcher.submit entry.1 entry.2) state [] _ state :=
    .asks found rfl fun _ member => absurd member List.not_mem_nil
  have same : { dispatcher.submit entry.1 entry.2 with submitted := [] ++ [] } = dispatcher := by
    show { dispatcher with submitted := [] } = dispatcher
    rw [← asked]
  rw [same] at asks
  have submits : Step dispatcher state _ _ state := .submit entry.1 entry.2
  exact .head submits (.single (.move asks))

/-- A move leaves no job without having asked for a worker where there was none. -/
theorem Move.asked (move : Move dispatcher state notices dispatcher' state')
    (asked : dispatcher.submitted = []) : dispatcher'.submitted = [] := by
  cases move with
  | asks found | endsApart found =>
    rw [asked] at found
    exact absurd found.symm (List.append_ne_nil_of_right_ne_nil _ (List.cons_ne_nil _ _))
  | ends =>
    rw [handOver_eq]
    exact (conclude_submitted _ _ _).trans asked

/-- Asking for a worker leaves at most two more moves to make. -/
theorem movesLeft_askForWorker (dispatcher : Dispatcher σ α) (job : Job σ α) :
    (dispatcher.askForWorker job).movesLeft ≤ dispatcher.movesLeft + 2 := by
  unfold askForWorker movesLeft
  split <;> simp only [List.length_append, List.length_singleton] <;> omega

/-- Moves post nothing but results. -/
theorem Run.unposted (moves : Run Move dispatcher state history dispatcher' state')
    (completion : Completion α) : .posted completion ∉ history := by
  induction moves with
  | refl => exact List.not_mem_nil
  | head move _ goesOn =>
    refine List.not_mem_append ?_ goesOn
    cases move <;> simp

end Dispatcher

end LogConsumer
