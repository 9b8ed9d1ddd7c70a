import LogConsumer.ConsumerError

/-!
# Dispatchers

A dispatcher runs jobs on a bounded number of workers and queues each result for the owner, who
takes results out in the order in which they were posted. Jobs ask for a worker in the order of
their submission, and a worker that becomes free goes to the job that has waited longest. The
jobs share a state of type `σ`, on which each of them acts once, when its worker gets to it.

`Dispatcher.step?` is one move; `Dispatcher.settle` makes moves while there are any.
-/
namespace LogConsumer

/-- How a job ends. -/
inductive Ending (α : Type) where
  /-- The job answered. -/
  | returned (result : Except ConsumerError α)
  /-- The job broke off. -/
  | panicked
  deriving Repr, Inhabited

/-- The result of a job that ran on a worker. -/
def Ending.result {α : Type} : Ending α → Except ConsumerError α
  | returned result => result
  | panicked => .error (.internal .workerPanicked)

/-- Who gets the result of a job. -/
inductive Destination where
  /-- The owner's queue, under this tag. -/
  | queue (tag : String)
  /-- The caller who waits for it. -/
  | caller
  deriving DecidableEq, Repr, Inhabited

/-- Work for a dispatcher. -/
structure Job (σ : Type) (α : Type) where
  /-- Who gets the result. -/
  destination : Destination
  /-- The job runs on a worker. -/
  pooled : Bool := true
  /-- The job keeps its worker until it is released. -/
  held : Bool := false
  /-- What the job does. -/
  action : StateM σ (Ending α)

/-- A result on its way to the owner. -/
structure Completion (α : Type) where
  /-- The tag of the job. -/
  tag : String
  /-- The result of the job. -/
  result : Except ConsumerError α
  deriving Repr

/-- A dispatcher. -/
structure Dispatcher (σ : Type) (α : Type) where
  /-- The number of workers. -/
  workers : Nat
  /-- Jobs submitted that have not asked for a worker yet, oldest first. -/
  submitted : List (Job σ α) := []
  /-- Jobs that wait for a worker, oldest first. -/
  waiting : List (Job σ α) := []
  /-- Jobs that have a worker, oldest first. -/
  running : List (Job σ α) := []
  /-- Results in the owner's queue, oldest first. -/
  completions : List (Completion α) := []
  /-- The result for the caller who waits. -/
  answered : Option (Except ConsumerError α) := none
  /-- Work can still be submitted. -/
  isOpen : Bool := true
  /-- The owner still takes results. -/
  hasOwner : Bool := true

/-- What a caller gets who waits for a job. -/
inductive Awaited (α : Type) where
  /-- The job ended. -/
  | returned (result : Except ConsumerError α)
  /-- The wait was cancelled before the job had a worker. -/
  | cancelled
  /-- No worker becomes free. -/
  | starved
  deriving Repr

namespace Dispatcher

variable {σ α : Type}

/-- A dispatcher with this many workers, and at least one. -/
def ofWorkers (workers : Nat) : Dispatcher σ α :=
  { workers := max workers 1 }

instance : Inhabited (Dispatcher σ α) := ⟨ofWorkers 1⟩

/-- The number of jobs that have a worker. -/
def inFlight (dispatcher : Dispatcher σ α) : Nat :=
  dispatcher.running.length

/-- Submit a job that runs on a worker. -/
def submit (dispatcher : Dispatcher σ α) (tag : String) (action : StateM σ (Ending α)) :
    Dispatcher σ α :=
  { dispatcher with
    submitted := dispatcher.submitted ++ [{ destination := .queue tag, action }] }

/-- Submit a job that needs no worker. -/
def submitAsync (dispatcher : Dispatcher σ α) (tag : String) (action : StateM σ (Ending α)) :
    Dispatcher σ α :=
  { dispatcher with
    submitted :=
      dispatcher.submitted ++ [{ destination := .queue tag, pooled := false, action }] }

/-- Submit a job that keeps its worker until it is released. -/
def hold (dispatcher : Dispatcher σ α) (tag : String) (action : StateM σ (Ending α)) :
    Dispatcher σ α :=
  { dispatcher with
    submitted := dispatcher.submitted ++ [{ destination := .queue tag, held := true, action }] }

/-- Release every job that is held. -/
def release (dispatcher : Dispatcher σ α) : Dispatcher σ α :=
  let free (job : Job σ α) : Job σ α := { job with held := false }
  { dispatcher with
    submitted := dispatcher.submitted.map free
    waiting := dispatcher.waiting.map free
    running := dispatcher.running.map free }

/-- Put a result into the owner's queue, if there is an owner. -/
def post (dispatcher : Dispatcher σ α) (completion : Completion α) : Dispatcher σ α :=
  if dispatcher.hasOwner then
    { dispatcher with completions := dispatcher.completions ++ [completion] }
  else dispatcher

/-- Hand the result of a job to whom it belongs. -/
def settleResult (dispatcher : Dispatcher σ α) (destination : Destination)
    (result : Except ConsumerError α) : Dispatcher σ α :=
  match destination with
  | .queue tag => dispatcher.post ⟨tag, result⟩
  | .caller => { dispatcher with answered := some result }

/-- Ask for a worker: the job gets a free one, and waits otherwise. -/
def askForWorker (dispatcher : Dispatcher σ α) (job : Job σ α) : Dispatcher σ α :=
  if dispatcher.running.length < dispatcher.workers then
    { dispatcher with running := dispatcher.running ++ [job] }
  else { dispatcher with waiting := dispatcher.waiting ++ [job] }

/-- Give a free worker to the job that has waited longest. -/
def handOver (dispatcher : Dispatcher σ α) : Dispatcher σ α :=
  match dispatcher.waiting with
  | [] => dispatcher
  | job :: rest => { dispatcher with waiting := rest, running := dispatcher.running ++ [job] }

/-- Take the first element that satisfies a test out of a list. -/
def takeFirst? {β : Type} (test : β → Bool) : List β → Option (β × List β)
  | [] => none
  | item :: items =>
    if test item then some (item, items)
    else (takeFirst? test items).map fun (found, rest) => (found, item :: rest)

/-- One move, if there is one: the oldest submitted job asks for a worker, or ends at once if it
needs none; once all have asked, the oldest job that has a worker and is not held ends. A job
without a worker that breaks off has no result. The end of a job, the release of its worker and the
posting of its result are one poll of its task and so one move: no other job gets a worker or posts
in between, and results are posted in the order in which jobs end. -/
def step? (dispatcher : Dispatcher σ α) (state : σ) : Option (Dispatcher σ α × σ) :=
  match dispatcher.submitted with
  | job :: rest =>
    let dispatcher := { dispatcher with submitted := rest }
    if job.pooled then some (dispatcher.askForWorker job, state)
    else
      match job.action state with
      | (.returned result, state) => some (dispatcher.settleResult job.destination result, state)
      | (.panicked, state) => some (dispatcher, state)
  | [] =>
    match takeFirst? (fun job => !job.held) dispatcher.running with
    | none => none
    | some (job, rest) =>
      let (ending, state) := job.action state
      let dispatcher := { dispatcher with running := rest }
      some ((dispatcher.settleResult job.destination ending.result).handOver, state)

/-- An upper bound on the number of moves left. -/
def movesLeft (dispatcher : Dispatcher σ α) : Nat :=
  3 * dispatcher.submitted.length + 2 * dispatcher.waiting.length + dispatcher.running.length

/-- Make at most `limit` moves. -/
def settleWithin : (limit : Nat) → Dispatcher σ α → σ → Dispatcher σ α × σ
  | 0, dispatcher, state => (dispatcher, state)
  | limit + 1, dispatcher, state =>
    match dispatcher.step? state with
    | none => (dispatcher, state)
    | some (dispatcher, state) => settleWithin limit dispatcher state

/-- Make moves while there are any. -/
def settle (dispatcher : Dispatcher σ α) (state : σ) : Dispatcher σ α × σ :=
  settleWithin dispatcher.movesLeft dispatcher state

/-- The caller's job waits for a worker. -/
def callerWaits (dispatcher : Dispatcher σ α) : Bool :=
  dispatcher.waiting.any fun job => job.destination = .caller

/-- Make moves until the caller has an answer. `patience` is the number of moves after which the
wait is cancelled, if it is; a job that has a worker by then runs to its end. -/
def awaitWithin : (limit : Nat) → (patience : Option Nat) → Dispatcher σ α → σ →
    Awaited α × Dispatcher σ α × σ
  | 0, _, dispatcher, state => (.starved, dispatcher, state)
  | limit + 1, patience, dispatcher, state =>
    match dispatcher.answered with
    | some result => (.returned result, { dispatcher with answered := none }, state)
    | none =>
      if patience = some 0 && dispatcher.callerWaits then
        let waiting := dispatcher.waiting.filter fun job => job.destination ≠ .caller
        (.cancelled, { dispatcher with waiting }, state)
      else
        match dispatcher.step? state with
        | none => (.starved, dispatcher, state)
        | some (dispatcher, state) =>
          awaitWithin limit (patience.map (· - 1)) dispatcher state

/-- Run a job and wait for its result. The job asks for a worker before the jobs that were
submitted and have not asked yet. A wait that is cancelled at once never asks. -/
def await (dispatcher : Dispatcher σ α) (patience : Option Nat) (action : StateM σ (Ending α))
    (state : σ) : Awaited α × Dispatcher σ α × σ :=
  if patience = some 0 then (.cancelled, dispatcher, state)
  else
    let dispatcher := dispatcher.askForWorker { destination := .caller, action }
    awaitWithin (dispatcher.movesLeft + 1) patience dispatcher state

/-- Take out every result that is ready. -/
def takePending (dispatcher : Dispatcher σ α) : List (Completion α) × Dispatcher σ α :=
  (dispatcher.completions, { dispatcher with completions := [] })

/-- Wait for the next result and take it out; there is none once nothing is outstanding. -/
def takeNext (dispatcher : Dispatcher σ α) (state : σ) :
    Option (Completion α) × Dispatcher σ α × σ :=
  let (dispatcher, state) :=
    if dispatcher.completions.isEmpty then dispatcher.settle state else (dispatcher, state)
  match dispatcher.completions with
  | [] => (none, dispatcher, state)
  | completion :: rest => (some completion, { dispatcher with completions := rest }, state)

/-- Wait for every outstanding result and take them out. -/
def drain (dispatcher : Dispatcher σ α) (state : σ) :
    List (Completion α) × Dispatcher σ α × σ :=
  let (dispatcher, state) := dispatcher.settle state
  let (completions, dispatcher) := dispatcher.takePending
  (completions, dispatcher, state)

/-- Take no more work. -/
def closeHandle (dispatcher : Dispatcher σ α) : Dispatcher σ α :=
  { dispatcher with isOpen := false }

/-- Take no more results out. -/
def dropOwner (dispatcher : Dispatcher σ α) : Dispatcher σ α :=
  { dispatcher with hasOwner := false, completions := [] }

end Dispatcher

end LogConsumer
