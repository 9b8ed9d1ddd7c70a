import LogConsumer.Proofs.Actions
import LogConsumer.Proofs.Dispatcher.Moves

/-!
# Accounts of a dispatcher

What any run of a dispatcher accounts for (`Dispatcher.Run.accounts`). Every job that comes in acts
once, is taken back, or is still there; the jobs act in the order in which they end, each on what
the one before it left; and what the jobs hand over, with what is posted, is what the owner takes
out and what is still in the queue, in order.
-/
namespace LogConsumer

variable {σ α : Type}

namespace Dispatcher

variable {dispatcher between dispatcher' : Dispatcher σ α} {state state₁ state' : σ}
  {history notices later : List (Notice σ α)}

/-- Handing a result over touches the owner's queue and the caller's answer only. -/
theorem conclude_rest (dispatcher : Dispatcher σ α) (job : Job σ α) (ending : Ending α) :
    dispatcher.conclude job ending = { dispatcher with
      completions := (dispatcher.conclude job ending).completions
      answered := (dispatcher.conclude job ending).answered } := by
  unfold conclude settleResult post
  split
  · split
    · split <;> rfl
    · rfl
  · rfl

section Conclude

variable (dispatcher : Dispatcher σ α) (job : Job σ α) (ending : Ending α)

@[simp] theorem conclude_workers :
    (dispatcher.conclude job ending).workers = dispatcher.workers := by
  rw [conclude_rest]

@[simp] theorem conclude_submitted :
    (dispatcher.conclude job ending).submitted = dispatcher.submitted := by
  rw [conclude_rest]

@[simp] theorem conclude_waiting :
    (dispatcher.conclude job ending).waiting = dispatcher.waiting := by
  rw [conclude_rest]

@[simp] theorem conclude_running :
    (dispatcher.conclude job ending).running = dispatcher.running := by
  rw [conclude_rest]

@[simp] theorem conclude_hasOwner :
    (dispatcher.conclude job ending).hasOwner = dispatcher.hasOwner := by
  rw [conclude_rest]

end Conclude

/-- Where there is an owner, what is handed over is put at the end of the queue. -/
theorem conclude_completions (owned : dispatcher.hasOwner = true) (job : Job σ α)
    (ending : Ending α) : (dispatcher.conclude job ending).completions =
      dispatcher.completions ++ (job.completion? ending).toList := by
  unfold conclude Job.completion? settleResult post
  cases job.outcome? ending <;> cases job.destination <;> simp [owned]

/-- The job that has waited longest stops waiting, and has the worker. -/
theorem handOver_eq (dispatcher : Dispatcher σ α) :
    dispatcher.handOver = { dispatcher with
      waiting := dispatcher.waiting.tail
      running := dispatcher.running ++ dispatcher.waiting.head?.toList } := by
  unfold handOver
  split
  · rename_i waits
    rw [waits, List.tail_nil, List.head?_nil, Option.toList_none, List.append_nil, ← waits]
  · rename_i job rest waits
    rw [waits]
    rfl

/-- A job that finds a worker free has it. -/
theorem askForWorker_of_free (free : dispatcher.running.length < dispatcher.workers)
    (job : Job σ α) : dispatcher.askForWorker job =
      { dispatcher with running := dispatcher.running ++ [job] } :=
  if_pos free

/-- A job that finds no worker free waits. -/
theorem askForWorker_of_busy (busy : ¬ dispatcher.running.length < dispatcher.workers)
    (job : Job σ α) : dispatcher.askForWorker job =
      { dispatcher with waiting := dispatcher.waiting ++ [job] } :=
  if_neg busy

/-- Asking for a worker touches the jobs that wait and those that have a worker only. -/
theorem askForWorker_rest (dispatcher : Dispatcher σ α) (job : Job σ α) :
    dispatcher.askForWorker job = { dispatcher with
      waiting := (dispatcher.askForWorker job).waiting
      running := (dispatcher.askForWorker job).running } := by
  unfold askForWorker
  split <;> rfl

/-- A job that asks for a worker has one or waits for one. -/
theorem jobs_askForWorker (dispatcher : Dispatcher σ α) (job : Job σ α) :
    (dispatcher.askForWorker job).jobs.Perm (job :: dispatcher.jobs) := by
  unfold askForWorker jobs
  split
  · rw [← List.append_assoc]
    exact List.perm_append_singleton _ _
  · rw [← List.append_assoc, List.append_assoc _ [job]]
    exact List.perm_middle

/-- No job gets lost when a worker is handed over. -/
theorem jobs_handOver (dispatcher : Dispatcher σ α) :
    dispatcher.handOver.jobs.Perm dispatcher.jobs := by
  unfold handOver jobs
  split
  · rfl
  · rename_i job rest waits
    rw [waits, ← List.append_assoc]
    refine (List.perm_append_singleton _ _).trans ?_
    rw [List.append_assoc, List.append_assoc]
    exact List.perm_middle.symm

/-- A job that is submitted is one of the jobs. -/
theorem jobs_submitted (dispatcher : Dispatcher σ α) (job : Job σ α) :
    { dispatcher with submitted := dispatcher.submitted ++ [job] }.jobs.Perm
      (dispatcher.jobs ++ [job]) := by
  simp only [jobs, List.append_assoc]
  refine .append_left _ ?_
  rw [← List.append_assoc dispatcher.waiting]
  exact List.perm_append_comm

/-- A job that has been found among those submitted is one of the jobs. -/
theorem jobs_of_submitted {before after : List (Job σ α)} {job : Job σ α}
    (found : dispatcher.submitted = before ++ job :: after) :
    dispatcher.jobs.Perm (job :: { dispatcher with submitted := before ++ after }.jobs) := by
  simp only [jobs, found, List.append_assoc, List.cons_append]
  exact List.perm_middle

/-- A job that has been found among those that wait is one of the jobs. -/
theorem jobs_of_waiting {before after : List (Job σ α)} {job : Job σ α}
    (found : dispatcher.waiting = before ++ job :: after) :
    dispatcher.jobs.Perm (job :: { dispatcher with waiting := before ++ after }.jobs) := by
  simp only [jobs, found, List.append_assoc, List.cons_append]
  rw [← List.append_assoc]
  refine List.perm_middle.trans ?_
  rw [List.append_assoc]

/-- A job that has been found among those that have a worker is one of the jobs. -/
theorem jobs_of_running {before after : List (Job σ α)} {job : Job σ α}
    (found : dispatcher.running = before ++ job :: after) :
    dispatcher.jobs.Perm (job :: { dispatcher with running := before ++ after }.jobs) := by
  simp only [jobs, found]
  rw [← List.append_assoc]
  refine List.perm_middle.trans ?_
  rw [List.append_assoc]

/-- Releasing jobs changes nothing else about them. -/
theorem jobs_release (dispatcher : Dispatcher σ α) :
    dispatcher.release.jobs = dispatcher.jobs.map Job.unheld := by
  simp only [jobs, List.map_append]
  rfl

/-- What a run of a dispatcher does with jobs, state and results. -/
structure Accounts (dispatcher : Dispatcher σ α) (state : σ) (history : List (Notice σ α))
    (dispatcher' : Dispatcher σ α) (state' : σ) : Prop where
  /-- Every job that was there or came in has ended, was taken back, or is there, and each once. -/
  jobs : ((Notice.performed history ++ Notice.withdrawals history ++ dispatcher'.jobs).map
    Job.unheld).Perm ((dispatcher.jobs ++ Notice.admissions history).map Job.unheld)
  /-- Only a caller takes a job back. -/
  own : ∀ job ∈ Notice.withdrawals history, job.destination = .caller
  /-- The jobs that ended acted one after the other, each once, and ended as their actions did. -/
  acts : (Notice.performed history).mapM Job.action state = (Notice.endings history, state')
  /-- Where there is an owner, there still is one, and what was in the queue and was put into it was
  taken out of it or is in it, in order. -/
  queue : dispatcher.hasOwner = true → dispatcher'.hasOwner = true ∧
    dispatcher.completions ++ Notice.posts history =
      Notice.takes history ++ dispatcher'.completions

namespace Accounts

open Notice

/-- Nothing is to account for where nothing happened. -/
theorem refl : Accounts dispatcher state [] dispatcher state where
  jobs := by simp [Notice.performed, Notice.withdrawals, Notice.admissions]
  own _ member := absurd member List.not_mem_nil
  acts := rfl
  queue owned := ⟨owned, by simp [Notice.posts, Notice.takes]⟩

/-- Two runs, one after the other, account for what both do. -/
theorem trans (first : Accounts dispatcher state history between state₁)
    (second : Accounts between state₁ later dispatcher' state') :
    Accounts dispatcher state (history ++ later) dispatcher' state' where
  jobs := by
    classical
    have before := first.jobs
    have after := second.jobs
    -- The jobs in between stand on both sides, so the two accounts add up job by job.
    rw [List.perm_iff_count] at before after ⊢
    intro job
    have here := before job
    have there := after job
    simp only [performed_append, withdrawals_append, admissions_append, List.map_append,
      List.count_append] at here there ⊢
    omega
  own := by
    rw [withdrawals_append]
    exact List.forall_mem_append.mpr ⟨first.own, second.own⟩
  acts := by
    rw [performed_append, endings_append, List.mapM_append, run_then, first.acts, run_then,
      second.acts]
    rfl
  queue owned := by
    obtain ⟨still, before⟩ := first.queue owned
    obtain ⟨again, after⟩ := second.queue still
    refine ⟨again, ?_⟩
    rw [posts_append, takes_append, ← List.append_assoc, before, List.append_assoc, after,
      List.append_assoc]

/-- What to account for where jobs come in and the queue is left alone. -/
theorem coming (admitted : List (Job σ α))
    (jobs : (dispatcher'.jobs.map Job.unheld).Perm ((dispatcher.jobs ++ admitted).map Job.unheld))
    (completions : dispatcher'.completions = dispatcher.completions)
    (hasOwner : dispatcher'.hasOwner = dispatcher.hasOwner) :
    Accounts dispatcher state (admitted.map .admitted) dispatcher' state where
  jobs := by simpa [performed, withdrawals, admissions, List.filterMap_map] using jobs
  own := by simp [withdrawals, List.filterMap_map]
  acts := by
    simp only [performed, endings, List.filterMap_map, Function.comp_def]
    rw [List.filterMap_none, List.filterMap_none]
    rfl
  queue owned := by simp [posts, takes, List.filterMap_map, completions, hasOwner, owned]

/-- What to account for where one job ends. -/
theorem ending {job : Job σ α} (jobs : dispatcher.jobs.Perm (job :: dispatcher'.jobs))
    (queue : dispatcher.hasOwner = true → dispatcher'.hasOwner = true ∧ dispatcher'.completions =
      dispatcher.completions ++ (job.completion? (job.action state).1).toList) :
    Accounts dispatcher state [.ended job (job.action state).1] dispatcher'
      (job.action state).2 where
  jobs := by
    have come : admissions [.ended job (job.action state).1] = [] := rfl
    rw [come, List.append_nil]
    exact (jobs.map Job.unheld).symm
  own _ member := absurd member List.not_mem_nil
  acts := by
    change [job].mapM Job.action state = ([(job.action state).1], (job.action state).2)
    rw [List.mapM_cons, List.mapM_nil]
    rfl
  queue owned := by
    obtain ⟨still, after⟩ := queue owned
    refine ⟨still, ?_⟩
    rw [after]
    change _ = dispatcher.completions ++ _
    cases handed : job.completion? (job.action state).1 <;> simp [posts, handed]

end Accounts

open Notice

/-- A move loses no job. -/
theorem Move.jobs (move : Move dispatcher state notices dispatcher' state') :
    dispatcher.jobs.Perm (performed notices ++ dispatcher'.jobs) := by
  cases move with
  | asks found => exact (jobs_of_submitted found).trans (jobs_askForWorker _ _).symm
  | ends found =>
    refine (jobs_of_running found).trans (.cons _ (.trans ?_ (jobs_handOver _).symm))
    simp only [Dispatcher.jobs, conclude_submitted, conclude_waiting, conclude_running]
    rfl
  | endsApart found =>
    refine (jobs_of_submitted found).trans (.cons _ ?_)
    simp only [Dispatcher.jobs, conclude_submitted, conclude_waiting, conclude_running]
    rfl

/-- A move accounts for the job that ends. -/
theorem Move.accounts (move : Move dispatcher state notices dispatcher' state') :
    Accounts dispatcher state notices dispatcher' state' := by
  have jobs := move.jobs
  cases move with
  | asks =>
    refine .coming [] ?_ (by rw [askForWorker_rest]) (by rw [askForWorker_rest])
    rw [List.append_nil]
    exact (jobs.map Job.unheld).symm
  | ends =>
    refine .ending jobs fun owned => ?_
    rw [handOver_eq]
    refine ⟨(conclude_hasOwner _ _ _).trans owned, ?_⟩
    exact conclude_completions (by exact owned) _ _
  | endsApart =>
    refine .ending jobs fun owned => ⟨(conclude_hasOwner _ _ _).trans owned, ?_⟩
    exact conclude_completions (by exact owned) _ _

/-- A step accounts for the jobs and for the results that it touches. -/
theorem Step.accounts (step : Step dispatcher state notices dispatcher' state') :
    Accounts dispatcher state notices dispatcher' state' := by
  cases step with
  | move move => exact move.accounts
  | submit tag action | submitAsync tag action | hold tag action =>
    exact .coming [_] (.map _ (jobs_submitted _ _)) rfl rfl
  | release =>
    refine .coming [] ?_ rfl rfl
    rw [jobs_release, List.map_map, List.append_nil]
    rfl
  | post completion =>
    refine ⟨?_, by simp [withdrawals], rfl, fun owned => ?_⟩
    · unfold Dispatcher.post
      split <;> simp [performed, withdrawals, admissions, jobs]
    · simp [Dispatcher.post, owned, posts, takes]
  | enter action =>
    refine .coming [_] (.map _ ?_) (by rw [askForWorker_rest]) (by rw [askForWorker_rest])
    exact (jobs_askForWorker _ _).trans (List.perm_append_singleton _ _).symm
  | @withdraw _ _ job found own =>
    refine ⟨?_, by simpa [withdrawals] using own, rfl, fun owned => ⟨owned, by simp [posts, takes]⟩⟩
    have come : admissions [.withdrawn job] = [] := rfl
    rw [come, List.append_nil]
    exact ((jobs_of_waiting found).map Job.unheld).symm
  | leave => exact .coming [] (by rw [List.append_nil]; rfl) rfl rfl
  | take oldest =>
    refine ⟨?_, by simp [withdrawals], rfl, fun owned => ⟨owned, ?_⟩⟩
    · simp [performed, withdrawals, admissions, jobs]
    · simp [posts, takes, oldest]

/-- A run accounts for every job and for every result. -/
theorem Run.accounts (run : Run Step dispatcher state history dispatcher' state') :
    Accounts dispatcher state history dispatcher' state' := by
  induction run with
  | refl => exact .refl
  | head first _ goesOn => exact first.accounts.trans goesOn

end Dispatcher

end LogConsumer
