import LogConsumer.Proofs.Dispatcher.Progress

/-!
# Waiting for a job

What a caller is told who waits for a job of a dispatcher (`Dispatcher.await_told`). A wait that is
answered is answered with the result of its own job, which ended once; a wait that is cancelled is
cancelled before the job acted, and the job never acts; and a wait that has no end is one for which
every worker is kept by a job that is held.
-/
namespace LogConsumer

variable {σ α : Type}

namespace Dispatcher

variable {workers limit : Nat} {dispatcher between dispatcher' : Dispatcher σ α}
  {state state₁ state' : σ} {history notices later : List (Notice σ α)}

/-- Nobody waits for a job. -/
structure CallerFree (dispatcher : Dispatcher σ α) : Prop where
  /-- No answer is to be fetched. -/
  answered : dispatcher.answered = none
  /-- No job is a caller's. -/
  jobs : dispatcher.jobs.filter Job.isCallers = []

/-- The jobs of callers are to run on a worker. -/
def CallersPooled (jobs : List (Job σ α)) : Prop :=
  ∀ job ∈ jobs, job.isCallers = true → job.pooled = true

/-- What a job of a caller hands over is the answer. -/
theorem conclude_answered (job : Job σ α) (ending : Ending α)
    (pooled : job.isCallers = true → job.pooled = true) :
    (dispatcher.conclude job ending).answered =
      (if job.isCallers then some ending.result else none).or dispatcher.answered := by
  cases destination : job.destination with
  | caller =>
    have callers : job.isCallers = true := by simp [Job.isCallers, destination]
    rw [conclude_of_pooled (pooled callers), destination, callers]
    rfl
  | queue tag =>
    have queued : job.isCallers = false := by simp [Job.isCallers, destination]
    rw [queued]
    unfold conclude settleResult post
    rw [destination]
    split
    · simp only
      split <;> rfl
    · rfl

/-- After a move the answer is how the last job of a caller ended. -/
theorem Move.answered (move : Move dispatcher state notices dispatcher' state')
    (pooled : CallersPooled dispatcher.jobs) :
    dispatcher'.answered = (Notice.answers notices).getLast?.or dispatcher.answered := by
  have jobs := move.jobs
  cases move with
  | asks =>
    rw [askForWorker_rest]
    rfl
  | @ends before after job _ _ _ =>
    rw [handOver_eq]
    refine (conclude_answered _ _ (pooled job (jobs.mem_iff.mpr (.head _)))).trans ?_
    cases callers : job.isCallers <;> simp [Notice.answers, callers]
  | @endsApart before after job _ _ =>
    refine (conclude_answered _ _ (pooled job (jobs.mem_iff.mpr (.head _)))).trans ?_
    cases callers : job.isCallers <;> simp [Notice.answers, callers]

/-- After moves the answer is how the last job of a caller ended. -/
theorem Run.answered (moves : Run Move dispatcher state history dispatcher' state') :
    CallersPooled dispatcher.jobs →
    dispatcher'.answered = (Notice.answers history).getLast?.or dispatcher.answered := by
  induction moves with
  | refl => exact fun _ => rfl
  | head move _ goesOn =>
    intro pooled
    have others : CallersPooled _ := fun job member =>
      pooled job (move.jobs.mem_iff.mpr (List.mem_append_right _ member))
    rw [goesOn others, move.answered pooled, Notice.answers_append, List.getLast?_append,
      Option.or_assoc]

/-- As many jobs of callers end as are answered. -/
theorem length_answers (history : List (Notice σ α)) : (Notice.answers history).length =
    ((Notice.performed history).filter Job.isCallers).length := by
  induction history with
  | nil => rfl
  | cons notice history goesOn =>
    rw [← List.singleton_append, Notice.answers_append, Notice.performed_append,
      List.filter_append, List.length_append, List.length_append, goesOn]
    congr 1
    cases notice with
    | ended job ending =>
      cases callers : job.isCallers <;>
        simp [Notice.answers, Notice.performed, callers]
    | _ => rfl

/-- Where nobody waits for a job, nobody does after a step in which no caller comes. -/
theorem Step.callerFree (step : Step dispatcher state notices dispatcher' state')
    (apart : (Notice.admissions notices).filter Job.isCallers = [])
    (free : dispatcher.CallerFree) : dispatcher'.CallerFree := by
  have unheld : ∀ jobs : List (Job σ α), (jobs.map Job.unheld).filter Job.isCallers =
      (jobs.filter Job.isCallers).map Job.unheld := fun jobs => List.filter_map
  -- No job of a caller was there or came in, so by the account none ended and none is left.
  have accounted := step.accounts.jobs.filter Job.isCallers
  rw [unheld, unheld, List.filter_append, List.filter_append, List.filter_append, free.jobs, apart]
    at accounted
  obtain ⟨gone, left⟩ := List.append_eq_nil_iff.mp (List.map_eq_nil_iff.mp accounted.eq_nil)
  obtain ⟨ended, _⟩ := List.append_eq_nil_iff.mp gone
  refine ⟨?_, left⟩
  cases step with
  | move move =>
    have pooled : CallersPooled dispatcher.jobs := fun job member callers =>
      absurd callers (List.filter_eq_nil_iff.mp free.jobs job member)
    have none : Notice.answers notices = [] := by
      rw [← List.length_eq_zero_iff, length_answers, ended, List.length_nil]
    rw [move.answered pooled, none]
    exact free.answered
  | enter =>
    rw [askForWorker_rest]
    exact free.answered
  | post =>
    unfold Dispatcher.post
    split <;> exact free.answered
  | leave => rfl
  | submit | submitAsync | hold | release | withdraw | take => exact free.answered

/-- Where nobody waits for a job, nobody does after a run in which no caller comes. -/
theorem Run.callerFree (run : Run Step dispatcher state history dispatcher' state') :
    (Notice.admissions history).filter Job.isCallers = [] →
      dispatcher.CallerFree → dispatcher'.CallerFree := by
  induction run with
  | refl => exact fun _ free => free
  | head first _ goesOn =>
    intro apart free
    rw [Notice.admissions_append, List.filter_append] at apart
    obtain ⟨before, after⟩ := List.append_eq_nil_iff.mp apart
    exact goesOn after (first.callerFree before free)

/-- How a wait ends: moves are made until there is an answer, or until the job is taken back that
waits for a worker, or until there are none. -/
inductive Waited (dispatcher : Dispatcher σ α) (state : σ) :
    List (Notice σ α) → Awaited α × Dispatcher σ α × σ → Prop where
  /-- The answer is fetched. -/
  | returned {history : List (Notice σ α)} {between : Dispatcher σ α} {state' : σ}
    {result : Except ConsumerError α} (moves : Run Move dispatcher state history between state')
    (answer : between.answered = some result) :
    Waited dispatcher state history (.returned result, { between with answered := none }, state')
  /-- The job is taken back. -/
  | cancelled {history : List (Notice σ α)} {between : Dispatcher σ α} {state' : σ}
    (moves : Run Move dispatcher state history between state') (waits : between.callerWaits = true)
    (unanswered : between.answered = none) :
    Waited dispatcher state history
      (.cancelled, { between with
        waiting := between.waiting.filter fun job => job.destination ≠ .caller }, state')
  /-- There is no further move. -/
  | starved {history : List (Notice σ α)} {between : Dispatcher σ α} {state' : σ}
    (moves : Run Move dispatcher state history between state')
    (settled : between.step? state' = none) (unanswered : between.answered = none) :
    Waited dispatcher state history (.starved, between, state')

/-- A wait may begin with a move. -/
theorem Waited.after {ended : Awaited α × Dispatcher σ α × σ}
    (move : Move dispatcher state notices between state₁)
    (waited : Waited between state₁ history ended) :
    Waited dispatcher state (notices ++ history) ended := by
  cases waited with
  | returned moves answer => exact .returned (.head move moves) answer
  | cancelled moves waits unanswered => exact .cancelled (.head move moves) waits unanswered
  | starved moves settled unanswered => exact .starved (.head move moves) settled unanswered

/-- A wait with moves enough to make ends. -/
theorem awaitWithin_waited (staffed : Staffed workers dispatcher)
    (enough : dispatcher.movesLeft < limit) (patience : Option Nat) (state : σ) :
    ∃ history, Waited dispatcher state history (awaitWithin limit patience dispatcher state) := by
  induction limit generalizing dispatcher patience state with
  | zero => omega
  | succ limit goesOn =>
    rw [awaitWithin]
    split
    · rename_i result answer
      exact ⟨[], .returned .refl answer⟩
    · rename_i unanswered
      split
      · rename_i gone
        obtain ⟨_, waits⟩ := Bool.and_eq_true_iff.mp gone
        exact ⟨[], .cancelled .refl waits unanswered⟩
      · split
        · rename_i settled
          exact ⟨[], .starved .refl settled unanswered⟩
        · rename_i between state₁ next
          obtain ⟨notices, move⟩ := step?_move staffed next
          have fewer := move.fewer
          obtain ⟨history, waited⟩ := goesOn (move.staffed staffed) (by omega)
            (patience.map (· - 1)) state₁
          exact ⟨notices ++ history, waited.after move⟩

/-- The job of a caller. -/
def callersJob (action : StateM σ (Ending α)) : Job σ α :=
  { destination := .caller, action }

/-- A caller waits for this job, and nobody waits for another. -/
structure CallerAsked (dispatcher : Dispatcher σ α) (job : Job σ α) : Prop where
  /-- There is no answer yet. -/
  unanswered : dispatcher.answered = none
  /-- The job is the only one of a caller. -/
  jobs : dispatcher.jobs.filter Job.isCallers = [job]
  /-- It is to run on a worker. -/
  pooled : CallersPooled dispatcher.jobs

/-- Where nobody waits for a job, a caller may ask for a worker for one. -/
theorem CallerFree.asks (free : dispatcher.CallerFree) (action : StateM σ (Ending α)) :
    (dispatcher.askForWorker (callersJob action)).CallerAsked (callersJob action) := by
  have come := jobs_askForWorker dispatcher (callersJob action)
  have only : (dispatcher.askForWorker (callersJob action)).jobs.filter Job.isCallers =
      [callersJob action] := by
    have callers := come.filter Job.isCallers
    rw [List.filter_cons_of_pos rfl, free.jobs] at callers
    exact List.perm_singleton.mp callers
  refine ⟨?_, only, fun job member callers => ?_⟩
  · rw [askForWorker_rest]
    exact free.answered
  · have among := List.mem_filter.mpr ⟨member, callers⟩
    rw [only, List.mem_singleton] at among
    rw [among]
    rfl

/-- While a caller waits, the job has ended, and its result is the answer, or it is still there, and
there is no answer. -/
theorem CallerAsked.after {job : Job σ α} (asked : dispatcher.CallerAsked job)
    (moves : Run Move dispatcher state history dispatcher' state') :
    (∃ result, dispatcher'.answered = some result ∧ Notice.answers history = [result] ∧
      (Notice.performed history).filter Job.isCallers = [job] ∧
      dispatcher'.jobs.filter Job.isCallers = []) ∨
    dispatcher'.answered = none ∧ (Notice.performed history).filter Job.isCallers = [] ∧
      dispatcher'.jobs.filter Job.isCallers = [job] := by
  have accounted := moves.jobs.filter Job.isCallers
  have answered := moves.answered asked.pooled
  have length := length_answers history
  rw [asked.jobs, List.filter_append] at accounted
  rw [asked.unanswered, Option.or_none] at answered
  obtain ⟨ended, left⟩ | ⟨ended, left⟩ :=
    List.append_eq_singleton_iff.mp (List.singleton_perm.mp accounted).symm
  · rw [ended, List.length_nil, List.length_eq_zero_iff] at length
    rw [length] at answered
    exact .inr ⟨answered, ended, left⟩
  · rw [ended] at length
    obtain ⟨result, answers⟩ := List.length_eq_one_iff.mp length
    rw [answers] at answered
    exact .inl ⟨result, answered, answers, ended, left⟩

/-- What a caller is told of the job, which acted or did not in what has happened. -/
def Told (job : Job σ α) (history : List (Notice σ α)) (after : Dispatcher σ α) :
    Awaited α → Prop
  | .returned result => (Notice.performed history).filter Job.isCallers = [job] ∧
      Notice.answers history = [result] ∧ after.CallerFree
  | .cancelled => (Notice.performed history).filter Job.isCallers = [] ∧ after.CallerFree
  | .starved => (Notice.performed history).filter Job.isCallers = [] ∧
      after.inFlight = after.workers ∧ ∀ job ∈ after.running, job.held = true

/-- The only job of a caller can be taken back while it waits. -/
theorem CallerFree.withdraw {job : Job σ α} (only : dispatcher.jobs.filter Job.isCallers = [job])
    (waits : dispatcher.callerWaits = true) (unanswered : dispatcher.answered = none) :
    ∃ before after, dispatcher.waiting = before ++ job :: after ∧ job.destination = .caller ∧
      (dispatcher.waiting.filter fun job => job.destination ≠ .caller) = before ++ after ∧
      { dispatcher with waiting := before ++ after }.CallerFree := by
  have callers : dispatcher.waiting.filter Job.isCallers = [job] := by
    have few : (dispatcher.waiting.filter Job.isCallers).Sublist [job] := by
      rw [← only, Dispatcher.jobs, List.filter_append, List.filter_append]
      exact (List.sublist_append_right _ _).trans (List.sublist_append_left _ _)
    obtain none | one := List.sublist_singleton.mp few
    · rw [callerWaits, List.any_eq_true] at waits
      obtain ⟨other, member, own⟩ := waits
      exact absurd own (List.filter_eq_nil_iff.mp none other member)
    · exact one
  obtain ⟨before, after, found, earlier, own, behind⟩ := List.filter_eq_cons_iff.mp callers
  have caller : job.destination = .caller := of_decide_eq_true own
  refine ⟨before, after, found, caller, ?_, unanswered, ?_⟩
  · have others : ∀ list : List (Job σ α), list.filter Job.isCallers = [] →
        list.filter (fun job => job.destination ≠ .caller) = list := by
      intro list none
      rw [List.filter_eq_self]
      intro other member
      simpa [Job.isCallers] using List.filter_eq_nil_iff.mp none other member
    rw [found, List.filter_append, List.filter_cons_of_neg (by simp [caller]), others after behind,
      others before (List.filter_eq_nil_iff.mpr earlier)]
  · have left := (jobs_of_waiting found).filter Job.isCallers
    rw [only, List.filter_cons_of_pos own] at left
    exact (List.cons.inj (List.singleton_perm.mp left)).2.symm

/-- The caller of a job is told the truth about it, however the wait ends. -/
theorem Waited.told {job : Job σ α} {ended : Awaited α × Dispatcher σ α × σ}
    (staffed : Staffed workers dispatcher) (asked : dispatcher.CallerAsked job)
    (free : job.held = false) (waited : Waited dispatcher state history ended) : ∃ later,
    Run Step dispatcher state later ended.2.1 ended.2.2 ∧ Notice.takes later = [] ∧
      Told job later ended.2.1 ended.1 := by
  cases waited with
  | @returned between _ result moves answer =>
    obtain ⟨_, _, taken⟩ := moves.alone
    have steps := (Run.ofMoves moves).append (.single .leave)
    rw [List.append_nil] at steps
    refine ⟨history, steps, taken, ?_⟩
    obtain ⟨_, answered, answers, once, left⟩ | ⟨unanswered, _⟩ := asked.after moves
    · rw [answer] at answered
      cases answered
      exact ⟨once, answers, rfl, left⟩
    · rw [answer] at unanswered
      cases unanswered
  | @cancelled between _ moves waits unanswered =>
    obtain ⟨_, _, taken⟩ := moves.alone
    obtain ⟨_, answered, _⟩ | ⟨_, never, only⟩ := asked.after moves
    · rw [unanswered] at answered
      cases answered
    · obtain ⟨before, after, found, own, others, left⟩ :=
        CallerFree.withdraw only waits unanswered
      rw [others]
      refine ⟨_, (Run.ofMoves moves).append (.single (.withdraw found own)), ?_, ?_, left⟩
      · rw [Notice.takes_append, taken]
        rfl
      · rw [Notice.performed_append, List.filter_append, never]
        rfl
  | @starved between _ moves settled unanswered =>
    obtain ⟨_, _, taken⟩ := moves.alone
    have steps := Run.ofMoves moves
    refine ⟨history, steps, taken, ?_⟩
    obtain ⟨_, answered, _⟩ | ⟨_, never, only⟩ := asked.after moves
    · rw [unanswered] at answered
      cases answered
    · have dealt := steps.staffed staffed
      obtain ⟨submitted, held⟩ := held_of_settled settled
      have there : job ∈ between.jobs := List.mem_of_mem_filter (only ▸ List.mem_singleton_self job)
      have waits : between.waiting ≠ [] := by
        intro none
        rw [Dispatcher.jobs, submitted, none, List.nil_append, List.nil_append] at there
        rw [held job there] at free
        cases free
      exact ⟨never, (dealt.busy waits).trans dealt.number.symm, held⟩

/-- A caller is told the truth about the job: the wait is answered with its result where it ended,
which it did once; it is cancelled where the job never acted; and it has no end only where every
worker is kept by a job that is held. -/
theorem await_told (staffed : Staffed workers dispatcher) (free : dispatcher.CallerFree)
    (patience : Option Nat) (action : StateM σ (Ending α)) (state : σ) : ∃ history,
    Run Step dispatcher state history (dispatcher.await patience action state).2.1
      (dispatcher.await patience action state).2.2 ∧
    Notice.takes history = [] ∧
    Told (callersJob action) history (dispatcher.await patience action state).2.1
      (dispatcher.await patience action state).1 := by
  rw [await]
  split
  · exact ⟨[], .refl, rfl, rfl, free⟩
  · have asked : Staffed workers (dispatcher.askForWorker (callersJob action)) := staffed.asks rfl
    obtain ⟨history, waited⟩ := awaitWithin_waited asked (Nat.lt_succ_self _) patience state
    obtain ⟨later, steps, taken, told⟩ := waited.told asked (free.asks action) rfl
    exact ⟨.admitted (callersJob action) :: later, .head (.enter action) steps, taken, told⟩

end Dispatcher

end LogConsumer
