import Mathlib.Data.List.Perm.Basic
import LogConsumer.Dispatcher

/-!
# Moves of a dispatcher

What can happen at a dispatcher, with what is to be told of it (`Notice`). On its own a dispatcher
makes three moves (`Dispatcher.Move`): a job asks for a worker, in the order of submission; any job
that has a worker and is not held ends; any job that needs none ends. Everything else is done to it
(`Dispatcher.Step`). So nothing is said about how long a job takes, nor about which of several jobs
that have a worker ends first. What is assumed is that a move is one poll of the task of its job, a
turn that no other task cuts into: where a job ends, its worker is released and its result is posted
before anybody else moves. The order of the callbacks rests on that.
-/
namespace LogConsumer

variable {σ α : Type}

namespace Job

/-- The job, be it held or not. -/
def unheld (job : Job σ α) : Job σ α :=
  { job with held := false }

/-- What the job hands over when it ends. A job without a worker that breaks off hands over
nothing. -/
def outcome? (job : Job σ α) (ending : Ending α) : Option (Except ConsumerError α) :=
  match job.pooled, ending with
  | false, .panicked => none
  | _, ending => some ending.result

/-- What the job puts into the owner's queue when it ends. -/
def completion? (job : Job σ α) (ending : Ending α) : Option (Completion α) :=
  match job.destination with
  | .queue tag => (job.outcome? ending).map fun result => ⟨tag, result⟩
  | .caller => none

/-- A caller waits for the job. -/
def isCallers (job : Job σ α) : Bool :=
  job.destination = .caller

/-- The tag under which the owner gets the result of the job. -/
def tag? (job : Job σ α) : Option String :=
  match job.destination with
  | .queue tag => some tag
  | .caller => none

/-- The job was submitted to run on a worker. -/
def isQueued (job : Job σ α) : Bool :=
  job.pooled && job.destination != .caller

end Job

/-- What is told of a step of a dispatcher. -/
inductive Notice (σ α : Type) where
  /-- A job came in. -/
  | admitted (job : Job σ α)
  /-- A job was taken back before it had a worker. -/
  | withdrawn (job : Job σ α)
  /-- A job acted, and ended. -/
  | ended (job : Job σ α) (ending : Ending α)
  /-- A result was posted that is not the result of a job. -/
  | posted (completion : Completion α)
  /-- The owner took a result out. -/
  | taken (completion : Completion α)

namespace Notice

/-- The jobs that came in, in order. -/
def admissions (history : List (Notice σ α)) : List (Job σ α) :=
  history.filterMap fun
    | .admitted job => some job
    | _ => none

/-- The jobs that were taken back, in order. -/
def withdrawals (history : List (Notice σ α)) : List (Job σ α) :=
  history.filterMap fun
    | .withdrawn job => some job
    | _ => none

/-- The jobs that ended, in order. -/
def performed (history : List (Notice σ α)) : List (Job σ α) :=
  history.filterMap fun
    | .ended job _ => some job
    | _ => none

/-- How they ended. -/
def endings (history : List (Notice σ α)) : List (Ending α) :=
  history.filterMap fun
    | .ended _ ending => some ending
    | _ => none

/-- What was put into the owner's queue, in order. -/
def posts (history : List (Notice σ α)) : List (Completion α) :=
  history.filterMap fun
    | .ended job ending => job.completion? ending
    | .posted completion => some completion
    | _ => none

/-- How the jobs of callers ended, in order. -/
def answers (history : List (Notice σ α)) : List (Except ConsumerError α) :=
  history.filterMap fun
    | .ended job ending => if job.isCallers then some ending.result else none
    | _ => none

/-- What the owner took out, in order. -/
def takes (history : List (Notice σ α)) : List (Completion α) :=
  history.filterMap fun
    | .taken completion => some completion
    | _ => none

section Append

variable (first second : List (Notice σ α))

@[simp] theorem admissions_append :
    admissions (first ++ second) = admissions first ++ admissions second :=
  List.filterMap_append

@[simp] theorem withdrawals_append :
    withdrawals (first ++ second) = withdrawals first ++ withdrawals second :=
  List.filterMap_append

@[simp] theorem performed_append :
    performed (first ++ second) = performed first ++ performed second :=
  List.filterMap_append

@[simp] theorem endings_append :
    endings (first ++ second) = endings first ++ endings second :=
  List.filterMap_append

@[simp] theorem posts_append : posts (first ++ second) = posts first ++ posts second :=
  List.filterMap_append

@[simp] theorem answers_append : answers (first ++ second) = answers first ++ answers second :=
  List.filterMap_append

@[simp] theorem takes_append : takes (first ++ second) = takes first ++ takes second :=
  List.filterMap_append

end Append

/-- A job that no worker ran broke off. -/
def isSilent : Notice σ α → Bool
  | .ended job .panicked => !job.pooled
  | _ => false

/-- What is owed to the owner, in order: the result of every job that ended, under the tag of the
job, and every result that was posted. -/
def owed (history : List (Notice σ α)) : List (Completion α) :=
  history.filterMap fun
    | .ended job ending =>
      match job.destination with
      | .queue tag => some ⟨tag, ending.result⟩
      | .caller => none
    | .posted completion => some completion
    | _ => none

/-- All that is owed is put into the owner's queue, but for what is owed by jobs that broke off
without a worker. -/
theorem posts_eq_owed (history : List (Notice σ α)) :
    posts history = owed (history.filter fun notice => !notice.isSilent) := by
  unfold posts owed
  rw [List.filterMap_filter]
  refine List.filterMap_congr fun notice _ => ?_
  cases notice with
  | ended job ending =>
    cases ending <;> cases pooled : job.pooled <;> cases destination : job.destination <;>
      simp [Job.completion?, Job.outcome?, isSilent, pooled, destination]
  | _ => simp [isSilent]

end Notice

namespace Dispatcher

/-- The jobs that have come in and have not ended. -/
def jobs (dispatcher : Dispatcher σ α) : List (Job σ α) :=
  dispatcher.submitted ++ dispatcher.waiting ++ dispatcher.running

/-- Hand over what a job hands over when it ends. -/
def conclude (dispatcher : Dispatcher σ α) (job : Job σ α) (ending : Ending α) :
    Dispatcher σ α :=
  match job.outcome? ending with
  | some result => dispatcher.settleResult job.destination result
  | none => dispatcher

/-- What a dispatcher does on its own. -/
inductive Move (dispatcher : Dispatcher σ α) (state : σ) :
    List (Notice σ α) → Dispatcher σ α → σ → Prop where
  /-- The oldest job that is to run on a worker asks for one. -/
  | asks {before after : List (Job σ α)} {job : Job σ α}
    (found : dispatcher.submitted = before ++ job :: after) (pooled : job.pooled = true)
    (oldest : ∀ other ∈ before, other.pooled = false) :
    Move dispatcher state []
      ({ dispatcher with submitted := before ++ after }.askForWorker job) state
  /-- A job that has a worker ends, and the worker goes to the job that has waited longest. The end
  of the job, the release of its worker and the posting of its result are one poll of its task, so
  no other job comes between them. -/
  | ends {before after : List (Job σ α)} {job : Job σ α}
    (found : dispatcher.running = before ++ job :: after) (free : job.held = false)
    (pooled : job.pooled = true) :
    Move dispatcher state [.ended job (job.action state).1]
      ({ dispatcher with running := before ++ after }.conclude job (job.action state).1).handOver
      (job.action state).2
  /-- A job that needs no worker ends. -/
  | endsApart {before after : List (Job σ α)} {job : Job σ α}
    (found : dispatcher.submitted = before ++ job :: after) (apart : job.pooled = false) :
    Move dispatcher state [.ended job (job.action state).1]
      ({ dispatcher with submitted := before ++ after }.conclude job (job.action state).1)
      (job.action state).2

/-- What happens at a dispatcher. -/
inductive Step (dispatcher : Dispatcher σ α) (state : σ) :
    List (Notice σ α) → Dispatcher σ α → σ → Prop where
  /-- It makes a move of its own. -/
  | move {notices : List (Notice σ α)} {dispatcher' : Dispatcher σ α} {state' : σ}
    (move : Move dispatcher state notices dispatcher' state') :
    Step dispatcher state notices dispatcher' state'
  /-- A job is submitted that runs on a worker. -/
  | submit (tag : String) (action : StateM σ (Ending α)) :
    Step dispatcher state [.admitted { destination := .queue tag, action }]
      (dispatcher.submit tag action) state
  /-- A job is submitted that needs no worker. -/
  | submitAsync (tag : String) (action : StateM σ (Ending α)) :
    Step dispatcher state [.admitted { destination := .queue tag, pooled := false, action }]
      (dispatcher.submitAsync tag action) state
  /-- A job is submitted that keeps its worker. -/
  | hold (tag : String) (action : StateM σ (Ending α)) :
    Step dispatcher state [.admitted { destination := .queue tag, held := true, action }]
      (dispatcher.hold tag action) state
  /-- The jobs that are held are released. -/
  | release : Step dispatcher state [] dispatcher.release state
  /-- A result is posted. -/
  | post (completion : Completion α) :
    Step dispatcher state [.posted completion] (dispatcher.post completion) state
  /-- A caller's job asks for a worker. -/
  | enter (action : StateM σ (Ending α)) :
    Step dispatcher state [.admitted { destination := .caller, action }]
      (dispatcher.askForWorker { destination := .caller, action }) state
  /-- A caller takes back a job that waits for a worker. -/
  | withdraw {before after : List (Job σ α)} {job : Job σ α}
    (found : dispatcher.waiting = before ++ job :: after) (own : job.destination = .caller) :
    Step dispatcher state [.withdrawn job] { dispatcher with waiting := before ++ after } state
  /-- A caller leaves with the result of its job. -/
  | leave : Step dispatcher state [] { dispatcher with answered := none } state
  /-- The owner takes the oldest result out. -/
  | take {completion : Completion α} {rest : List (Completion α)}
    (oldest : dispatcher.completions = completion :: rest) :
    Step dispatcher state [.taken completion] { dispatcher with completions := rest } state

/-- Steps of one kind, one after the other. -/
inductive Run (step : Dispatcher σ α → σ → List (Notice σ α) → Dispatcher σ α → σ → Prop) :
    Dispatcher σ α → σ → List (Notice σ α) → Dispatcher σ α → σ → Prop where
  /-- No step. -/
  | refl {dispatcher : Dispatcher σ α} {state : σ} : Run step dispatcher state [] dispatcher state
  /-- One step before all the others. -/
  | head {dispatcher between dispatcher' : Dispatcher σ α} {state state₁ state' : σ}
    {notices later : List (Notice σ α)} (first : step dispatcher state notices between state₁)
    (rest : Run step between state₁ later dispatcher' state') :
    Run step dispatcher state (notices ++ later) dispatcher' state'

namespace Run

variable {step : Dispatcher σ α → σ → List (Notice σ α) → Dispatcher σ α → σ → Prop}
  {dispatcher between dispatcher' : Dispatcher σ α} {state state₁ state' : σ}
  {history notices later : List (Notice σ α)}

/-- One run goes on where another ends. -/
theorem append (first : Run step dispatcher state history between state₁)
    (second : Run step between state₁ later dispatcher' state') :
    Run step dispatcher state (history ++ later) dispatcher' state' := by
  induction first with
  | refl => exact second
  | head first _ goesOn =>
    rw [List.append_assoc]
    exact .head first (goesOn second)

/-- One step is a run. -/
theorem single (only : step dispatcher state notices dispatcher' state') :
    Run step dispatcher state notices dispatcher' state' := by
  rw [← List.append_nil notices]
  exact .head only .refl

/-- Moves are steps. -/
theorem ofMoves (moves : Run Move dispatcher state history dispatcher' state') :
    Run Step dispatcher state history dispatcher' state' := by
  induction moves with
  | refl => exact .refl
  | head move _ goesOn => exact .head (.move move) goesOn

end Run

end Dispatcher

end LogConsumer
