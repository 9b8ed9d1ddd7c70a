import LogConsumer.Proofs.Dispatcher.Awaiting

/-!
# Completion of dispatched work

What a dispatcher owes to those who give it work, and what it gives them (`Dispatcher.completes`).
Every job that comes in acts exactly once, unless a caller takes it back before it has a worker, and
then it never acts. What its owner takes out is what is owed to the owner, each result once, under
its own tag and in the order in which the jobs ended, with one exception: work that needs no worker
and breaks off leaves no result behind (`Dispatcher.submitAsync_silent`), whereas work on a worker
that breaks off gives an internal error.
-/
namespace LogConsumer

variable {σ α : Type}

namespace Notice

/-- A job ended that was submitted to run on a worker. -/
def isQueued : Notice σ α → Bool
  | .ended job _ => job.isQueued
  | _ => false

/-- The results of the jobs submitted to run on a worker are owed under the tags of these jobs, in
the order in which they ended. -/
theorem owed_isQueued (history : List (Notice σ α)) :
    (owed (history.filter isQueued)).map Completion.tag =
      ((performed history).filter Job.isQueued).filterMap Job.tag? := by
  unfold owed performed
  rw [List.filterMap_filter, List.map_filterMap, List.filter_filterMap, List.filterMap_filterMap]
  refine List.filterMap_congr fun notice _ => ?_
  cases notice with
  | ended job ending =>
    cases queued : job.isQueued <;> cases destination : job.destination <;>
      simp [isQueued, queued, destination, Job.tag?, Option.filter]
  | _ => rfl

/-- The result of a job on a worker never goes missing. -/
theorem isSilent_of_isQueued {notice : Notice σ α} (queued : notice.isQueued = true) :
    notice.isSilent = false := by
  cases notice with
  | ended job ending =>
    have pooled : job.pooled = true := (Bool.and_eq_true_iff.mp queued).1
    cases ending <;> simp [isSilent, pooled]
  | _ => rfl

/-- The results of the jobs submitted to run on a worker are among what is put into the queue. -/
theorem owed_isQueued_sublist (history : List (Notice σ α)) :
    (owed (history.filter isQueued)).Sublist
      (owed (history.filter fun notice => !notice.isSilent)) := by
  refine List.Sublist.filterMap _ (List.monotone_filter_right history fun notice queued => ?_)
  rw [isSilent_of_isQueued queued]
  rfl

section Taken

variable (results : List (Completion α))

theorem takes_taken : takes (results.map .taken : List (Notice σ α)) = results := by
  simp [takes, List.filterMap_map]

theorem admissions_taken : admissions (results.map .taken : List (Notice σ α)) = [] := by
  simp [admissions, List.filterMap_map]

theorem withdrawals_taken : withdrawals (results.map .taken : List (Notice σ α)) = [] := by
  simp [withdrawals, List.filterMap_map]

end Taken

end Notice

namespace Dispatcher

variable {workers : Nat} {dispatcher dispatcher' : Dispatcher σ α} {state state' : σ}
  {history later : List (Notice σ α)}

/-- The owner may take all results out, one after the other. -/
theorem takes_run {results : List (Completion α)} (ready : dispatcher.completions = results) :
    Run Step dispatcher state (results.map .taken) { dispatcher with completions := [] } state := by
  induction results generalizing dispatcher with
  | nil =>
    have none : { dispatcher with completions := [] } = dispatcher := by rw [← ready]
    rw [none]
    exact .refl
  | cons first rest goesOn =>
    have others : Run Step { dispatcher with completions := rest } state (rest.map .taken)
        { dispatcher with completions := [] } state := goesOn rfl
    exact .head (.take ready) others

/-- The owner who waits for the next result gets the oldest one, and none only where the dispatcher
has no move left that could bring one. -/
theorem takeNext_run (staffed : Staffed workers dispatcher) (state : σ) : ∃ history,
    Run Step dispatcher state history (dispatcher.takeNext state).2.1
      (dispatcher.takeNext state).2.2 ∧
    Notice.takes history = (dispatcher.takeNext state).1.toList ∧
    ((dispatcher.takeNext state).1 = none →
      (dispatcher.takeNext state).2.1.completions = [] ∧
      (dispatcher.takeNext state).2.1.step? (dispatcher.takeNext state).2.2 = none ∧
      dispatcher.jobs.Perm (Notice.performed history ++ (dispatcher.takeNext state).2.1.jobs)) := by
  obtain ⟨history, after, state', waited, moves, settled⟩ : ∃ history after state',
      (if dispatcher.completions.isEmpty then dispatcher.settle state else (dispatcher, state)) =
        (after, state') ∧ Run Move dispatcher state history after state' ∧
      (after.completions = [] → after.step? state' = none) := by
    split
    · obtain ⟨history, moves, settled⟩ := settle_moves staffed state
      exact ⟨history, _, _, rfl, moves, fun _ => settled⟩
    · rename_i ready
      exact ⟨[], _, _, rfl, .refl, fun none => absurd (List.isEmpty_iff.mpr none) ready⟩
  obtain ⟨_, _, taken⟩ := moves.alone
  cases ready : after.completions with
  | nil =>
    have next : dispatcher.takeNext state = (none, after, state') := by
      simp only [takeNext, waited, ready]
    rw [next]
    exact ⟨history, .ofMoves moves, taken, fun _ => ⟨ready, settled ready, moves.jobs⟩⟩
  | cons first rest =>
    have next : dispatcher.takeNext state =
        (some first, { after with completions := rest }, state') := by
      simp only [takeNext, waited, ready]
    rw [next]
    refine ⟨history ++ [.taken first], (Run.ofMoves moves).append (.single (.take ready)), ?_,
      fun none => absurd none (Option.some_ne_none first)⟩
    rw [Notice.takes_append, taken]
    rfl

/-- The owner who waits for all results gets them, and unless a job is held none is left. -/
theorem drain_run (staffed : Staffed workers dispatcher) (some : 0 < workers) (state : σ) :
    ∃ history, Run Step dispatcher state history (dispatcher.drain state).2.1
      (dispatcher.drain state).2.2 ∧
    Notice.takes history = (dispatcher.drain state).1 ∧ Notice.admissions history = [] ∧
    Notice.withdrawals history = [] ∧ (dispatcher.drain state).2.1.completions = [] ∧
    ((∀ job ∈ dispatcher.jobs, job.held = false) → (dispatcher.drain state).2.1.jobs = []) := by
  obtain ⟨history, moves, settled⟩ := settle_moves staffed state
  obtain ⟨come, gone, taken⟩ := moves.alone
  have takes : Run Step (dispatcher.settle state).1 (dispatcher.settle state).2 _ _ _ :=
    takes_run rfl
  have steps := (Run.ofMoves moves).append takes
  refine ⟨_, steps, ?_, ?_, ?_, rfl, fun free => ?_⟩
  · rw [Notice.takes_append, taken, Notice.takes_taken]
    rfl
  · rw [Notice.admissions_append, come, Notice.admissions_taken, List.append_nil]
  · rw [Notice.withdrawals_append, gone, Notice.withdrawals_taken, List.append_nil]
  · have left := jobs_eq_nil_of_settled ((Run.ofMoves moves).staffed staffed) some settled
    exact left fun job member =>
      free job (moves.jobs.mem_iff.mpr (List.mem_append_right _ member))

/-- What a dispatcher with this many workers does with the work it is given. -/
structure Completes (workers : Nat) (state : σ) (history : List (Notice σ α))
    (dispatcher : Dispatcher σ α) (state' : σ) : Prop where
  /-- Every job that came in has ended, was taken back, or is there, and each once. -/
  once : ((Notice.performed history ++ Notice.withdrawals history ++ dispatcher.jobs).map
    Job.unheld).Perm ((Notice.admissions history).map Job.unheld)
  /-- Only a caller takes a job back. -/
  own : ∀ job ∈ Notice.withdrawals history, job.destination = .caller
  /-- The jobs that ended acted one after the other, each once, and ended as their actions did. -/
  acts : (Notice.performed history).mapM Job.action state = (Notice.endings history, state')
  /-- What the owner took out and may take out is what is owed, in order, but for what is owed by
  work that broke off without a worker. -/
  results : Notice.takes history ++ dispatcher.completions =
    Notice.owed (history.filter fun notice => !notice.isSilent)
  /-- No more jobs have a worker than there are workers. -/
  bounded : dispatcher.inFlight ≤ max workers 1
  /-- With one worker, the jobs submitted to run on it end in the order of submission. -/
  ordered : workers ≤ 1 →
    ((Notice.performed history).filter Job.isQueued).map Job.unheld ++ dispatcher.line =
      ((Notice.admissions history).filter Job.isQueued).map Job.unheld
  /-- With one worker, their results are taken out in the order of submission, and are under their
  tags. -/
  answers : workers ≤ 1 →
    (Notice.owed (history.filter Notice.isQueued)).Sublist
      (Notice.takes history ++ dispatcher.completions) ∧
    (Notice.owed (history.filter Notice.isQueued)).map Completion.tag <+:
      ((Notice.admissions history).filter Job.isQueued).filterMap Job.tag?
  /-- In whichever order it moves, it has finitely many moves to make, and one as long as there is a
  job and none is held. -/
  going : (∀ notices after state₁, Move dispatcher state' notices after state₁ →
      after.movesLeft < dispatcher.movesLeft) ∧
    (dispatcher.jobs ≠ [] → (∀ job ∈ dispatcher.jobs, job.held = false) →
      ∃ notices after state₁, Move dispatcher state' notices after state₁)
  /-- The owner who takes what is ready takes all of it, and nothing else happens. -/
  pending : Run Step dispatcher state' (dispatcher.takePending.1.map .taken)
      dispatcher.takePending.2 state' ∧ dispatcher.takePending.2.completions = []
  /-- The owner who waits for the next result takes one out, unless there is none left to come: no
  job is left that is not held or waits for the worker of one that is. -/
  next : ∃ later, Run Step dispatcher state' later (dispatcher.takeNext state').2.1
      (dispatcher.takeNext state').2.2 ∧
    Notice.takes later = (dispatcher.takeNext state').1.toList ∧
    ((dispatcher.takeNext state').1 = none → (∀ job ∈ dispatcher.jobs, job.held = false) →
      (dispatcher.takeNext state').2.1.jobs = [])
  /-- Once no job is held, the owner who waits for all results takes out all that is owed, every job
  has acted that was not taken back, and no worker has a job. -/
  drained : (∀ job ∈ dispatcher.jobs, job.held = false) → ∃ later,
    Run Step dispatcher state' later (dispatcher.drain state').2.1 (dispatcher.drain state').2.2 ∧
    Notice.takes later = (dispatcher.drain state').1 ∧
    Notice.takes history ++ (dispatcher.drain state').1 =
      Notice.owed ((history ++ later).filter fun notice => !notice.isSilent) ∧
    ((Notice.performed (history ++ later) ++ Notice.withdrawals history).map Job.unheld).Perm
      ((Notice.admissions history).map Job.unheld) ∧
    (dispatcher.drain state').2.1.inFlight = 0
  /-- As long as no caller comes, nobody waits for a job. -/
  callerFree : (Notice.admissions history).filter Job.isCallers = [] → dispatcher.CallerFree
  /-- A caller who waits for a job while nobody else does is told the truth about it. -/
  awaited : dispatcher.CallerFree → ∀ (patience : Option Nat) (action : StateM σ (Ending α)),
    ∃ later, Run Step dispatcher state' later (dispatcher.await patience action state').2.1
        (dispatcher.await patience action state').2.2 ∧
      Notice.takes later = [] ∧
      Told (callersJob action) later (dispatcher.await patience action state').2.1
        (dispatcher.await patience action state').1

/-- Whatever happens at a dispatcher whose owner takes results, the work it is given is completed:
each job acts once, its result is owed once and taken out once, workers are never shared, a single
worker keeps the order, and a caller learns whether its job acted. -/
theorem completes (run : Run Step (ofWorkers workers) state history dispatcher state') :
    Completes workers state history dispatcher state' := by
  have accounts := run.accounts
  have staffed := run.staffed (staffed_ofWorkers workers)
  have some : 0 < max workers 1 := by omega
  obtain ⟨owned, queue⟩ := accounts.queue rfl
  have once := accounts.jobs
  have results : Notice.takes history ++ dispatcher.completions =
      Notice.owed (history.filter fun notice => !notice.isSilent) := by
    rw [← Notice.posts_eq_owed, ← queue]
    rfl
  have ordered : workers ≤ 1 →
      ((Notice.performed history).filter Job.isQueued).map Job.unheld ++ dispatcher.line =
        ((Notice.admissions history).filter Job.isQueued).map Job.unheld := by
    intro single
    have one : max workers 1 = 1 := by omega
    exact run.inOrder (one ▸ staffed_ofWorkers workers)
  refine {
    once, own := accounts.own, acts := accounts.acts, results, bounded := staffed.bounded, ordered
    answers := fun single => ⟨?_, ?_⟩
    going := ⟨fun _ _ _ move => move.fewer, fun left free => ?_⟩
    pending := ⟨takes_run rfl, rfl⟩
    next := ?_
    drained := fun free => ?_
    callerFree := fun apart => run.callerFree apart ⟨rfl, rfl⟩
    awaited := fun free patience action => await_told staffed free patience action state' }
  · rw [results]
    exact Notice.owed_isQueued_sublist history
  · have tags := congrArg (List.filterMap Job.tag?) (ordered single)
    rw [List.filterMap_append, List.filterMap_map, List.filterMap_map] at tags
    rw [Notice.owed_isQueued]
    exact ⟨_, tags⟩
  · cases next : dispatcher.step? state' with
    | none => exact absurd (jobs_eq_nil_of_settled staffed some next free) left
    | some after =>
      obtain ⟨notices, move⟩ := step?_move staffed next
      exact ⟨notices, _, _, move⟩
  · obtain ⟨later, steps, taken, last⟩ := takeNext_run staffed state'
    refine ⟨later, steps, taken, fun none free => ?_⟩
    obtain ⟨_, settled, left⟩ := last none
    exact jobs_eq_nil_of_settled (steps.staffed staffed) some settled fun job member =>
      free job (left.mem_iff.mpr (List.mem_append_right _ member))
  · obtain ⟨later, steps, taken, come, gone, empty, left⟩ := drain_run staffed some state'
    -- The drain is a run like any other: what was taken is told by the account of both runs.
    have whole := (run.append steps).accounts
    have jobs := whole.jobs
    obtain ⟨_, queue⟩ := whole.queue rfl
    rw [left free, List.append_nil, Notice.withdrawals_append, gone, List.append_nil,
      Notice.admissions_append, come, List.append_nil] at jobs
    rw [empty, List.append_nil, Notice.takes_append, taken, Notice.posts_eq_owed] at queue
    refine ⟨later, steps, taken, queue.symm, jobs, ?_⟩
    have none := left free
    rw [Dispatcher.jobs, List.append_eq_nil_iff] at none
    exact List.length_eq_zero_iff.mpr none.2

/-- Two jobs are submitted to one worker. The first one gets it and breaks off, while the second one
waits; then the second one gets it, and counts. The owner takes out the error of the first and the
count of the second. -/
theorem completes_after_panic :
    let first : Job Nat Nat :=
      { destination := .queue "a", action := fun count => (.panicked, count + 1) }
    let second : Job Nat Nat :=
      { destination := .queue "b", action := fun count => (.returned (.ok count), count + 1) }
    let busy : Dispatcher Nat Nat :=
      { ofWorkers 1 with running := [first], waiting := [second] }
    let failed : Completion Nat := ⟨"a", .error (.internal .workerPanicked)⟩
    let counted : Completion Nat := ⟨"b", .ok 1⟩
    Run Step (ofWorkers 1) 0 [.admitted first, .admitted second] busy 0 ∧
      Completes 1 0 [.admitted first, .admitted second, .ended first .panicked,
        .ended second (.returned (.ok 1)), .taken failed, .taken counted] (ofWorkers 1) 2 := by
  intro first second busy failed counted
  have begins : Run Step (ofWorkers 1) 0 [.admitted first, .admitted second] busy 0 := by
    let submitted := ((ofWorkers 1).submit "a" first.action).submit "b" second.action
    let asked : Dispatcher Nat Nat := { ofWorkers 1 with submitted := [second], running := [first] }
    have leads : submitted.submitted = [] ++ first :: [second] := rfl
    have follows : asked.submitted = [] ++ second :: [] := rfl
    have asks : Step submitted 0 [] asked 0 := .move (.asks leads rfl (List.forall_mem_nil _))
    have waits : Step asked 0 [] busy 0 := .move (.asks follows rfl (List.forall_mem_nil _))
    exact .head (.submit "a" first.action) (.head (.submit "b" second.action)
      (.head asks (.single waits)))
  have ends : Run Step busy 0 [.ended first .panicked, .ended second (.returned (.ok 1)),
      .taken failed, .taken counted] (ofWorkers 1) 2 := by
    let freed : Dispatcher Nat Nat :=
      { ofWorkers 1 with running := [second], completions := [failed] }
    let ready : Dispatcher Nat Nat := { ofWorkers 1 with completions := [failed, counted] }
    have leads : busy.running = [] ++ first :: [] := rfl
    have follows : freed.running = [] ++ second :: [] := rfl
    have breaks : Step busy 0 [.ended first .panicked] freed 1 := .move (.ends leads rfl rfl)
    have counts : Step freed 1 [.ended second (.returned (.ok 1))] ready 2 :=
      .move (.ends follows rfl rfl)
    exact .head breaks (.head counts (takes_run rfl))
  exact ⟨begins, completes (begins.append ends)⟩

/-- Work that needs no worker and breaks off leaves no result: no job is left, and none is ready.
The same work on a worker gives an internal error. -/
theorem submitAsync_silent :
    (∃ after, (((ofWorkers 1).submitAsync "a" (pure .panicked)).await none
        (pure (.returned (.ok 1))) () : Awaited Nat × Dispatcher Unit Nat × Unit) =
      (.returned (.ok 1), after, ()) ∧ after.jobs = [] ∧ after.takePending.1 = []) ∧
    ∃ after, (((ofWorkers 1).submit "a" (pure .panicked)).drain () :
        List (Completion Nat) × Dispatcher Unit Nat × Unit) =
      ([⟨"a", .error (.internal .workerPanicked)⟩], after, ()) ∧ after.jobs = [] :=
  ⟨⟨_, rfl, rfl, rfl⟩, _, rfl, rfl⟩

end Dispatcher

end LogConsumer
