import LogConsumer.Proofs.Dispatcher.Accounts

/-!
# Workers of a dispatcher

How a dispatcher deals out its workers. No more jobs have a worker than there are workers, a job
waits only while all of them are busy, and only jobs that are to run on a worker do either
(`Dispatcher.Staffed`). With one worker, the jobs that were submitted to run on it end in the order
of their submission (`Dispatcher.InOrder`).
-/
namespace LogConsumer

variable {σ α : Type}

namespace Dispatcher

variable {workers : Nat} {dispatcher between dispatcher' : Dispatcher σ α}
  {state state₁ state' : σ} {history notices later : List (Notice σ α)}

/-- The workers are dealt out among the jobs that ask for one. -/
structure Staffed (workers : Nat) (dispatcher : Dispatcher σ α) : Prop where
  /-- There are this many workers. -/
  number : dispatcher.workers = workers
  /-- No worker has two jobs. -/
  bounded : dispatcher.running.length ≤ workers
  /-- No worker is free while a job waits. -/
  busy : dispatcher.waiting ≠ [] → dispatcher.running.length = workers
  /-- The jobs that wait are to run on a worker. -/
  waiting : ∀ job ∈ dispatcher.waiting, job.pooled = true
  /-- The jobs that have a worker are to run on one. -/
  running : ∀ job ∈ dispatcher.running, job.pooled = true

/-- A new dispatcher has dealt out none of its workers. -/
theorem staffed_ofWorkers (workers : Nat) :
    Staffed (max workers 1) (ofWorkers workers : Dispatcher σ α) where
  number := rfl
  bounded := Nat.zero_le _
  busy waits := absurd rfl waits
  waiting _ member := absurd member List.not_mem_nil
  running _ member := absurd member List.not_mem_nil

namespace Staffed

/-- A job that asks gets a worker if one is free, and waits otherwise. -/
theorem asks (staffed : Staffed workers dispatcher) {job : Job σ α} (pooled : job.pooled = true) :
    Staffed workers (dispatcher.askForWorker job) := by
  have number := staffed.number
  have bounded := staffed.bounded
  by_cases free : dispatcher.running.length < dispatcher.workers
  · rw [askForWorker_of_free free]
    refine ⟨number, ?_, fun waits => ?_, staffed.waiting, ?_⟩
    · rw [List.length_append, List.length_singleton]
      omega
    · have full := staffed.busy waits
      omega
    · exact List.forall_mem_append.mpr ⟨staffed.running, List.forall_mem_singleton.mpr pooled⟩
  · rw [askForWorker_of_busy free]
    refine ⟨number, bounded, fun _ => ?_, ?_, staffed.running⟩
    · change dispatcher.running.length = workers
      omega
    · exact List.forall_mem_append.mpr ⟨staffed.waiting, List.forall_mem_singleton.mpr pooled⟩

/-- A worker that becomes free goes to the job that has waited longest. -/
theorem ends (staffed : Staffed workers dispatcher) {before after : List (Job σ α)}
    {job : Job σ α} (found : dispatcher.running = before ++ job :: after) (ending : Ending α) :
    Staffed workers
      ({ dispatcher with running := before ++ after }.conclude job ending).handOver := by
  have bounded := staffed.bounded
  have busy := staffed.busy
  have pooled := staffed.running
  have waiting := staffed.waiting
  rw [found, List.length_append, List.length_cons] at bounded
  rw [found, List.length_append, List.length_cons] at busy
  rw [found] at pooled
  have others : ∀ other ∈ before ++ after, other.pooled = true := fun other member =>
    pooled other ((List.sublist_cons_self job after).append_left before |>.subset member)
  rw [handOver_eq]
  refine ⟨?_, ?_, fun waits => ?_, ?_, ?_⟩
  all_goals simp only [conclude_workers, conclude_waiting, conclude_running] at *
  · exact staffed.number
  · cases dispatcher.waiting <;> simp <;> omega
  · cases queue : dispatcher.waiting with
    | nil => exact absurd (by rw [queue, List.tail_nil]) waits
    | cons first rest =>
      have full := busy (by rw [queue]; exact List.cons_ne_nil _ _)
      simp only [List.head?_cons, Option.toList_some, List.length_append, List.length_singleton]
      omega
  · exact fun other member => waiting other (List.mem_of_mem_tail member)
  · refine List.forall_mem_append.mpr ⟨others, fun other member => waiting other ?_⟩
    exact List.mem_of_mem_head? (Option.mem_toList.mp member)

/-- Whatever leaves workers and the jobs that have one alone leaves them dealt out, if no job
starts to wait. -/
theorem sublist (staffed : Staffed workers dispatcher)
    (number : dispatcher'.workers = dispatcher.workers)
    (waiting : dispatcher'.waiting.Sublist dispatcher.waiting)
    (running : dispatcher'.running = dispatcher.running) : Staffed workers dispatcher' where
  number := number.trans staffed.number
  bounded := running ▸ staffed.bounded
  busy waits := by
    rw [running]
    refine staffed.busy fun none => waits ?_
    exact List.sublist_nil.mp (none ▸ waiting)
  waiting job member := staffed.waiting job (waiting.subset member)
  running := running ▸ staffed.running

/-- Releasing jobs leaves them where they are. -/
theorem release (staffed : Staffed workers dispatcher) :
    Staffed workers dispatcher.release where
  number := staffed.number
  bounded := Nat.le_trans (Nat.le_of_eq (List.length_map _)) staffed.bounded
  busy waits := by
    refine (List.length_map _).trans (staffed.busy fun none => waits ?_)
    exact List.map_eq_nil_iff.mpr none
  waiting := List.forall_mem_map.mpr staffed.waiting
  running := List.forall_mem_map.mpr staffed.running

end Staffed

/-- A move deals out the workers. -/
theorem Move.staffed (move : Move dispatcher state notices dispatcher' state')
    (staffed : Staffed workers dispatcher) : Staffed workers dispatcher' := by
  cases move with
  | asks found pooled _ =>
    refine Staffed.asks ?_ pooled
    exact staffed.sublist rfl (.refl _) rfl
  | ends found _ _ => exact staffed.ends found _
  | endsApart found _ => exact staffed.sublist (by simp) (by simp) (by simp)

/-- A step deals out the workers. -/
theorem Step.staffed (step : Step dispatcher state notices dispatcher' state')
    (staffed : Staffed workers dispatcher) : Staffed workers dispatcher' := by
  cases step with
  | move move => exact move.staffed staffed
  | submit | submitAsync | hold | leave | take _ => exact staffed.sublist rfl (.refl _) rfl
  | release => exact staffed.release
  | post =>
    unfold Dispatcher.post
    split
    · exact staffed.sublist rfl (.refl _) rfl
    · exact staffed
  | enter => exact staffed.asks rfl
  | withdraw found _ =>
    refine staffed.sublist rfl ?_ rfl
    rw [found]
    exact (List.sublist_cons_self _ _).append_left _

/-- Over a run the workers stay dealt out. -/
theorem Run.staffed (run : Run Step dispatcher state history dispatcher' state') :
    Staffed workers dispatcher → Staffed workers dispatcher' := by
  induction run with
  | refl => exact id
  | head first _ goesOn => exact fun staffed => goesOn (first.staffed staffed)

/-- The jobs submitted to run on a worker that have not ended, in the order in which a single worker
gets to them. -/
def line (dispatcher : Dispatcher σ α) : List (Job σ α) :=
  ((dispatcher.running ++ dispatcher.waiting ++ dispatcher.submitted).filter
    Job.isQueued).map Job.unheld

/-- What ends of the jobs submitted to run on a worker ends in the order of submission, and what has
not ended comes after it in that order. -/
def InOrder (dispatcher : Dispatcher σ α) (history : List (Notice σ α))
    (dispatcher' : Dispatcher σ α) : Prop :=
  ((Notice.performed history).filter Job.isQueued).map Job.unheld ++ dispatcher'.line =
    dispatcher.line ++ ((Notice.admissions history).filter Job.isQueued).map Job.unheld

/-- Jobs that need no worker are not in the line. -/
theorem filter_isQueued_of_apart {jobs : List (Job σ α)}
    (apart : ∀ job ∈ jobs, job.pooled = false) : jobs.filter Job.isQueued = [] := by
  rw [List.filter_eq_nil_iff]
  intro job member
  simp [Job.isQueued, apart job member]

namespace InOrder

open Notice

/-- Two runs, one after the other, keep the order if both do. -/
theorem trans (first : InOrder dispatcher history between)
    (second : InOrder between later dispatcher') :
    InOrder dispatcher (history ++ later) dispatcher' := by
  unfold InOrder at *
  rw [performed_append, admissions_append, List.filter_append, List.filter_append,
    List.map_append, List.map_append, List.append_assoc, second, ← List.append_assoc, first,
    List.append_assoc]

end InOrder

open Notice

/-- The single worker gets to a job that asks after all that asked before. -/
theorem line_askForWorker (staffed : Staffed 1 dispatcher) (job : Job σ α) :
    (dispatcher.askForWorker job).line = ((dispatcher.running ++ dispatcher.waiting ++
      job :: dispatcher.submitted).filter Job.isQueued).map Job.unheld := by
  by_cases free : dispatcher.running.length < dispatcher.workers
  · have none : dispatcher.waiting = [] := by
      by_contra waits
      have full := staffed.busy waits
      have number := staffed.number
      omega
    rw [askForWorker_of_free free]
    simp [line, none]
  · rw [askForWorker_of_busy free]
    simp [line]

/-- A submission comes last in the line. -/
theorem inOrder_submitted (dispatcher : Dispatcher σ α) (job : Job σ α) :
    InOrder dispatcher [.admitted job]
      { dispatcher with submitted := dispatcher.submitted ++ [job] } := by
  simp [InOrder, line, performed, admissions, List.filter_append]

/-- What leaves the line alone and makes no job of the line come in or end keeps the order. -/
theorem inOrder_aside (ended : (performed notices).filter Job.isQueued = [])
    (come : (admissions notices).filter Job.isQueued = [])
    (same : dispatcher'.line = dispatcher.line) : InOrder dispatcher notices dispatcher' := by
  rw [InOrder, ended, come, same, List.map_nil, List.nil_append, List.append_nil]

/-- With one worker a move keeps the order. -/
theorem Move.inOrder (move : Move dispatcher state notices dispatcher' state')
    (staffed : Staffed 1 dispatcher) : InOrder dispatcher notices dispatcher' := by
  cases move with
  | @asks before after job found pooled oldest =>
    have free : Staffed 1 { dispatcher with submitted := before ++ after } :=
      staffed.sublist rfl (.refl _) rfl
    have apart := filter_isQueued_of_apart oldest
    refine inOrder_aside rfl rfl ?_
    rw [line_askForWorker free]
    simp [line, found, List.filter_cons, apart]
  | @ends before after job found _ _ =>
    -- The single worker has one job, so the job that ends is the first in the line.
    have bounded := staffed.bounded
    rw [found, List.length_append, List.length_cons] at bounded
    have first : before = [] := List.length_eq_zero_iff.mp (by omega)
    have last : after = [] := List.length_eq_zero_iff.mp (by omega)
    subst first last
    rw [handOver_eq]
    cases queue : dispatcher.waiting <;>
      simp [InOrder, line, performed, admissions, found, queue, ← List.map_append,
        ← List.filter_append]
  | @endsApart before after job found apart =>
    have aside : job.isQueued = false := by simp [Job.isQueued, apart]
    simp [InOrder, line, performed, admissions, found, aside]

/-- Releasing jobs keeps the line. -/
theorem line_release (dispatcher : Dispatcher σ α) : dispatcher.release.line = dispatcher.line := by
  have unheld : dispatcher.release.running ++ dispatcher.release.waiting ++
      dispatcher.release.submitted =
      (dispatcher.running ++ dispatcher.waiting ++ dispatcher.submitted).map Job.unheld := by
    rw [List.map_append, List.map_append]
    rfl
  rw [line, unheld, List.filter_map, List.map_map]
  rfl

/-- With one worker a step keeps the order. -/
theorem Step.inOrder (step : Step dispatcher state notices dispatcher' state')
    (staffed : Staffed 1 dispatcher) : InOrder dispatcher notices dispatcher' := by
  cases step with
  | move move => exact move.inOrder staffed
  | submit | submitAsync | hold => exact inOrder_submitted _ _
  | release => exact inOrder_aside rfl rfl (line_release dispatcher)
  | post completion =>
    refine inOrder_aside rfl rfl ?_
    unfold Dispatcher.post
    split <;> rfl
  | enter action =>
    refine inOrder_aside rfl rfl ?_
    rw [line_askForWorker staffed]
    simp [line, Job.isQueued]
  | @withdraw before after job found own =>
    have aside : job.isQueued = false := by simp [Job.isQueued, own]
    exact inOrder_aside rfl rfl (by simp [line, found, aside])
  | leave | take => exact inOrder_aside rfl rfl rfl

/-- With one worker the order is kept over a run. -/
theorem Run.inOrder (run : Run Step dispatcher state history dispatcher' state') :
    Staffed 1 dispatcher → InOrder dispatcher history dispatcher' := by
  induction run with
  | refl => exact fun _ => inOrder_aside rfl rfl rfl
  | head first _ goesOn =>
    exact fun staffed => (first.inOrder staffed).trans (goesOn (first.staffed staffed))

end Dispatcher

end LogConsumer
