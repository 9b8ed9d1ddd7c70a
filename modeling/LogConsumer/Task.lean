import LogConsumer.Consumer.Run
import LogConsumer.Dispatcher

/-!
# Tasks

Operations of a consumer that are handed to a dispatcher. A task is an operation with the
configured timeouts filled in; only a disconnect does more, since it stops the consume loop
before it asks for a worker.
-/
namespace LogConsumer

/-- An operation to be dispatched. -/
inductive Task where
  /-- Create and install a handle. -/
  | connect
  /-- Stop the consume loop and close the handle. -/
  | disconnect
  /-- Poll one message. -/
  | consume (timeout : Nat)
  /-- Poll up to a number of records. -/
  | consumeMany (count timeout : Nat) (firstOnly : Bool)
  /-- Commit a list of offsets, or the stored ones, and wait for the broker. -/
  | commit (partitions : Option (List TopicPartition))
  /-- Move a position. -/
  | seek (tp : TopicPartition) (timeout : Option Nat)
  /-- Look up committed offsets. -/
  | committed (partitions : List TopicPartition) (timeout : Option Nat)
  /-- Look up offsets by time. -/
  | offsetsForTimes (partitions : List TopicPartition) (timeout : Option Nat)
  /-- Ask the leader of the partition for its watermarks. -/
  | queryWatermarks (key : PartitionKey) (timeout : Nat)
  deriving DecidableEq, Repr, Inhabited

namespace Task

/-- The operation of a task under a configuration. -/
def operation (config : Config) : Task → Operation
  | connect => .connect
  | disconnect => .disconnect
  | consume timeout => .consume timeout
  | consumeMany count timeout firstOnly => .consumeMany count timeout firstOnly
  | commit partitions => .commit partitions .sync
  | seek tp timeout => .seek tp (timeout.getD config.seekTimeout)
  | committed partitions timeout =>
    .committed partitions (timeout.getD config.committedTimeout)
  | offsetsForTimes partitions timeout =>
    .offsetsForTimes partitions (timeout.getD config.committedTimeout)
  | queryWatermarks key timeout => .queryWatermarks key timeout

/-- Perform a task. -/
def perform (task : Task) : Consumer.Action Reply := do
  let config := (← get).consumer.config
  match task with
  | disconnect =>
    Consumer.stopLoop config.loopStopTimeout true
    Operation.disconnect.run
  | task => (task.operation config).run

/-- What a worker does for a task. -/
def action (task : Task) : StateM Site (Ending Reply) := do
  pure (.returned (← task.perform.run))

end Task

namespace Consumer

/-- Start the consume loop on an open handle. Timeouts that are not given are the configured
ones. -/
def consumeLoop (timeout sleepDelay : Option Nat) : Action Unit := do
  let consumer := (← get).consumer
  if !consumer.connection.isConnected then throw .notConnected
  startLoop
    { timeout := consumer.config.clampTimeout (timeout.getD consumer.config.consumeTimeout)
      sleepDelay := sleepDelay.getD consumer.config.loopSleepDelay }
  publish .consumeLoopStarted

/-- Let the loop make its next step on its own: look, begin a poll if a worker is free, end the
poll, or end the pause. -/
def advanceLoop (workerFree : Bool) : StateM Site Unit := do
  match (← get).consumer.loop with
  | none => pure ()
  | some loop =>
    match loop.phase with
    | .checking => signalLoop .look
    | .waiting =>
      if workerFree then
        match ← (beginPoll loop.settings.timeout).run with
        | .ok polled => signalLoop (.pollBegan (Outcome.ofMessage polled.message) polled.waited)
        | .error error => signalLoop (.pollBegan (.error error) 0)
    | .polling _ _ => endLoopPoll
    | .backingOff => signalLoop .wake
    | .exited _ => pure ()

/-- Let the loop go on until a condition holds, for at most `limit` steps. -/
def advanceLoopUntil (workerFree : Bool) (reached : Site → Bool) : (limit : Nat) → StateM Site Unit
  | 0 => pure ()
  | limit + 1 => do
    if !reached (← get) then
      advanceLoop workerFree
      advanceLoopUntil workerFree reached limit

/-- Enough steps of a loop for a number of polls, each of which takes at most four. -/
def stepsForPolls (polls : Nat) : Nat :=
  4 * (polls + 1)

/-- Let the loop go on until it has delivered a number of results or is over. Without a scripted
outcome left, a poll that delivers nothing is followed by nothing else. -/
def awaitDeliveries (workerFree : Bool) (wanted : Nat) : StateM Site Unit := do
  let scripted := ((← get).cluster.script .poll).length
  advanceLoopUntil workerFree
    (fun site => wanted ≤ site.consumer.deliveries.length || !site.consumer.isLoopRunning)
    (stepsForPolls (wanted + scripted + 1))

/-- Let the loop go on until the cluster has seen a number of polls. -/
def awaitPolls (workerFree : Bool) (wanted : Nat) : StateM Site Unit := do
  advanceLoopUntil workerFree (fun site => wanted ≤ site.cluster.polls)
    (stepsForPolls (wanted - (← get).cluster.polls))

/-- Let a loop that was cancelled go on until it is over. -/
def awaitLoopEnd (workerFree : Bool) : StateM Site Unit := do
  let scripted := ((← get).cluster.script .poll).length
  advanceLoopUntil workerFree (fun site => !site.consumer.isLoopRunning)
    (stepsForPolls (scripted + 1))

end Consumer

end LogConsumer
