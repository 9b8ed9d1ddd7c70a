import LogConsumer.Consumer.Consumption

/-!
# The consume loop of a consumer

A consumer has a place for one consume loop. A loop keeps its place until it is over, so a
cancelled loop that is still polling keeps the next one from starting. Stopping a loop waits for
a poll that has begun, but no longer than it is told to.
-/
namespace LogConsumer.Consumer

/-- Pass a signal to the loop: deliver what it delivers, and tell the listeners when it ends in
order. -/
def signalLoop (signal : LoopSignal) : StateM Site Unit := do
  match (← get).consumer.loop with
  | none => pure ()
  | some loop =>
    let (delivered, next) := loop.step signal
    update fun consumer =>
      { consumer with
        loop := some next
        deliveries := consumer.deliveries ++ delivered.toList }
    if !loop.isOver && next.isOver && !next.isPanicked then publish .consumeLoopStopped

/-- End the poll that the loop has begun, and count its outcome. -/
def endLoopPoll : StateM Site Unit := do
  match (← get).consumer.loop.map ConsumeLoop.phase with
  | some (.polling outcome _) =>
    countOutcome outcome
    signalLoop .pollEnded
  | _ => pure ()

/-- Start a loop, unless one has not ended yet. -/
def startLoop (settings : LoopSettings) : Action Unit := do
  if (← get).consumer.isLoopRunning then throw (.state .loopOccupied)
  update fun consumer => { consumer with loop := some { settings }, deliveries := [] }

/-- Cancel the loop and wait for its end, but no longer than `wait`. A loop that is still polling
then keeps its place. A loop that broke off is reported where the caller wants to know. -/
def stopLoop (wait : Nat) (reportsPanic : Bool) : Action Unit := do
  match (← get).consumer.loop with
  | none => pure ()
  | some _ =>
    signalLoop .cancel
    match (← get).consumer.loop.map ConsumeLoop.phase with
    | some (.polling _ remaining) =>
      if wait < remaining then
        signalLoop (.elapse wait)
        throw (.state (.loopNotStopped wait))
      endLoopPoll
    | _ => pure ()
    signalLoop .look
    let panicked := (← get).consumer.loop.any ConsumeLoop.isPanicked
    update fun consumer => { consumer with loop := none }
    if panicked && reportsPanic then throw (.internal .workerPanicked)

end LogConsumer.Consumer
