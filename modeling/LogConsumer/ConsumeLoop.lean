import LogConsumer.Outcome

/-!
# Consume loops

A consume loop polls again and again until it is cancelled or the consumer is no longer in a
state to be polled. It is a machine whose steps are signals from its surroundings: a worker
became free and a poll began, the poll ended, a pause is over, the loop is cancelled. A poll
that has begun always ends, and unless it saw nothing its outcome is delivered.
-/
namespace LogConsumer

/-- How a loop polls and pauses, in milliseconds. -/
structure LoopSettings where
  /-- How long a poll waits. -/
  timeout : Nat
  /-- How long the loop pauses after a poll that brought nothing or failed. -/
  sleepDelay : Nat
  deriving DecidableEq, Repr, Inhabited

/-- Where a loop stands. -/
inductive LoopPhase where
  /-- The loop is about to look whether it is cancelled. -/
  | checking
  /-- The loop waits for a worker. -/
  | waiting
  /-- A poll has begun; it will end with this outcome after this many milliseconds. -/
  | polling (outcome : Outcome) (remaining : Nat)
  /-- The loop pauses. -/
  | backingOff
  /-- The loop is over, by a panic or in order. -/
  | exited (panicked : Bool)
  deriving Repr, Inhabited

/-- What happens to a loop. -/
inductive LoopSignal where
  /-- The loop is cancelled. -/
  | cancel
  /-- The loop looks whether it is cancelled. -/
  | look
  /-- A worker takes the loop's poll, which will have this outcome after this time. -/
  | pollBegan (outcome : Outcome) (duration : Nat)
  /-- Time passes. -/
  | elapse (milliseconds : Nat)
  /-- The poll ends. -/
  | pollEnded
  /-- The pause is over. -/
  | wake
  /-- The loop breaks off. -/
  | panic
  deriving Repr, Inhabited

/-- A consume loop. -/
structure ConsumeLoop where
  /-- How the loop polls and pauses. -/
  settings : LoopSettings
  /-- The loop was cancelled. -/
  cancelled : Bool := false
  /-- Where the loop stands. -/
  phase : LoopPhase := .checking
  deriving Repr, Inhabited

namespace ConsumeLoop

/-- The loop is over. -/
def isOver (loop : ConsumeLoop) : Bool :=
  match loop.phase with
  | .exited _ => true
  | _ => false

/-- The loop broke off. -/
def isPanicked (loop : ConsumeLoop) : Bool :=
  match loop.phase with
  | .exited panicked => panicked
  | _ => false

/-- The loop goes on unless it is cancelled, in which case it is over. -/
private def unlessCancelled (loop : ConsumeLoop) (phase : LoopPhase) : ConsumeLoop :=
  { loop with phase := if loop.cancelled then .exited false else phase }

/-- What a loop does with the outcome of a poll: whether it delivers it, and where it goes on.
Nothing seen in time is not delivered; a refusal of the state ends the loop; after any other
error the loop pauses. -/
def receive (loop : ConsumeLoop) (outcome : Outcome) : Option Outcome × ConsumeLoop :=
  match outcome with
  | .ok message =>
    if message.isTimeout then (none, loop.unlessCancelled .backingOff)
    else (some outcome, { loop with phase := .checking })
  | .error error =>
    if error.isState then (none, { loop with phase := .exited false })
    else (some outcome, loop.unlessCancelled .backingOff)

/-- One step of a loop: what it delivers, and the loop after the step. A signal that does not
fit the phase changes nothing. -/
def step (loop : ConsumeLoop) (signal : LoopSignal) : Option Outcome × ConsumeLoop :=
  match signal, loop.phase with
  | .cancel, .waiting | .cancel, .backingOff =>
    (none, { loop with cancelled := true, phase := .exited false })
  | .cancel, _ => (none, { loop with cancelled := true })
  | .look, .checking => (none, loop.unlessCancelled .waiting)
  | .pollBegan outcome duration, .waiting =>
    (none, { loop with phase := .polling outcome duration })
  | .elapse milliseconds, .polling outcome remaining =>
    (none, { loop with phase := .polling outcome (remaining - milliseconds) })
  | .pollEnded, .polling outcome _ => loop.receive outcome
  | .wake, .backingOff => (none, { loop with phase := .checking })
  | .panic, .exited _ => (none, loop)
  | .panic, _ => (none, { loop with phase := .exited true })
  | _, _ => (none, loop)

/-- The deliveries of a run of signals, in order, and the loop after it. -/
def run (loop : ConsumeLoop) : List LoopSignal → List Outcome × ConsumeLoop
  | [] => ([], loop)
  | signal :: signals =>
    let (delivered, loop) := loop.step signal
    let (later, loop) := loop.run signals
    (delivered.toList ++ later, loop)

end ConsumeLoop

end LogConsumer
