import LogConsumer.Consumer.Consumption
import LogConsumer.Consumer.Lifecycle
import LogConsumer.Consumer.Offsets
import LogConsumer.Consumer.Partitions

/-!
# Running operations

Every operation of a consumer as one function of the operation. A disconnect runs the close
script of the boundary from inside the close. While that happens the handle is no longer open, so
a disconnect in the script closes nothing and needs no script of its own.
-/
namespace LogConsumer

/-- Perform an operation; `inside` is what runs from inside a close. -/
def Operation.perform (inside : StateM Site Unit) : Operation → Consumer.Action Reply
  | .connect => do Consumer.connect; pure .done
  | .disconnect => do Consumer.disconnect inside; pure .done
  | .subscribe topics => do Consumer.subscribe topics; pure .done
  | .unsubscribe => do Consumer.unsubscribe; pure .done
  | .subscription => do pure (.topics (← Consumer.subscription))
  | .assign partitions => do Consumer.assign partitions; pure .done
  | .unassign => do Consumer.unassign; pure .done
  | .incrementalAssign partitions => do Consumer.incrementalAssign partitions; pure .done
  | .incrementalUnassign partitions => do Consumer.incrementalUnassign partitions; pure .done
  | .refreshAssignments => do Consumer.refreshAssignments; pure .done
  | .assignments => do pure (.partitions (← Consumer.assignments))
  | .hasAssigned => do pure (.flag (← get).consumer.hasAssigned)
  | .commit partitions mode => do Consumer.commit partitions mode; pure .done
  | .consume timeout => do pure (.message (← Consumer.consume timeout))
  | .consumeMany count timeout firstOnly => do
    pure (.batch (← Consumer.consumeMany count timeout firstOnly))
  | .seek tp timeout => do Consumer.seek tp timeout; pure .done
  | .committed partitions timeout => do
    pure (.partitions (← Consumer.committed partitions timeout))
  | .position partitions => do pure (.partitions (← Consumer.position partitions))
  | .pause partitions => do pure (.partitions (← Consumer.pause partitions))
  | .resume partitions => do pure (.partitions (← Consumer.resume partitions))
  | .storeOffsets partitions => do pure (.partitions (← Consumer.storeOffsets partitions))
  | .storeOffset key offset leaderEpoch => do
    Consumer.storeOffset key offset leaderEpoch
    pure .done
  | .offsetsForTimes partitions timeout => do
    pure (.partitions (← Consumer.offsetsForTimes partitions timeout))
  | .cachedWatermarks key => do pure (.watermarks (← Consumer.cachedWatermarks key))
  | .queryWatermarks key timeout => do
    pure (.watermarks (← Consumer.queryWatermarks key timeout))
  | .rebalanceProtocol => do pure (.protocol (← Consumer.rebalanceProtocol))
  | .name => do pure (.label (← get).consumer.events.clientName)
  | .isClosing => do pure (.flag (← get).consumer.connection.isClosing)
  | .isConnected => do pure (.flag (← get).consumer.connection.isConnected)
  | .activate => do
    Consumer.update fun consumer =>
      { consumer with events := { consumer.events with active := true } }
    pure .done
  | .deactivate => do
    Consumer.update fun consumer =>
      { consumer with events := { consumer.events with active := false } }
    pure .done
  | .metrics => do pure (.metrics (← get).consumer.metrics)

/-- How a consumer stands after an operation with this answer. -/
def Consumer.report {α : Type} (consumer : Consumer) (outcome : Except ConsumerError α) :
    Report α :=
  { outcome
    state := consumer.connection.state
    subscribed := consumer.isSubscribed
    assigned := consumer.partitions.count }

/-- Run an operation from inside a close and keep its report. -/
def Operation.runInsideClose (operation : Operation) : StateM Site Unit := do
  let outcome ← (operation.perform (pure ())).run
  Consumer.update fun consumer =>
    { consumer with
      boundary := { consumer.boundary with
        reports := consumer.boundary.reports ++ [consumer.report outcome] } }

/-- Run the close script. -/
def Consumer.runCloseScript : StateM Site Unit := do
  (← get).consumer.boundary.closeScript.forM Operation.runInsideClose

/-- Run an operation of a consumer. -/
def Operation.run (operation : Operation) : Consumer.Action Reply :=
  operation.perform Consumer.runCloseScript

end LogConsumer
