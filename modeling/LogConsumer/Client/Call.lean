import LogConsumer.Client.Assignment
import LogConsumer.Client.Offsets
import LogConsumer.Client.Poll

/-!
# Calls on a handle

Every primitive of a handle, with its arguments, as a value. `ClientCall.perform` says what a
call does, so a run of a handle is a list of calls.
-/
namespace LogConsumer

/-- Whether a commit waits for the broker. -/
inductive CommitMode where
  /-- The commit waits for the broker. -/
  | sync
  /-- The commit is handed over and not waited for. -/
  | async
  deriving DecidableEq, Repr, Inhabited

namespace CommitMode

/-- The name of a mode. -/
def name : CommitMode → String
  | sync => "Sync"
  | async => "Async"

end CommitMode

/-- A call on a handle. Every timeout is a number of milliseconds. -/
inductive ClientCall where
  /-- The name is read. -/
  | name
  /-- The handle is shut down. -/
  | close
  /-- The subscription is replaced. -/
  | subscribe (topics : List String)
  /-- The subscription is dropped. -/
  | unsubscribe
  /-- The subscription is read. -/
  | subscription
  /-- The assignment is replaced. -/
  | assign (partitions : List TopicPartition)
  /-- The assignment is dropped. -/
  | unassign
  /-- Partitions are added. -/
  | incrementalAssign (partitions : List TopicPartition)
  /-- Partitions are taken away. -/
  | incrementalUnassign (partitions : List TopicPartition)
  /-- The assignment is read. -/
  | assignment
  /-- Offsets are committed. -/
  | commit (partitions : Option (List TopicPartition)) (mode : CommitMode)
  /-- Committed offsets are looked up. -/
  | committed (partitions : List TopicPartition) (timeout : Nat)
  /-- Positions are read. -/
  | position (partitions : List TopicPartition)
  /-- A position is moved. -/
  | seek (tp : TopicPartition) (timeout : Nat)
  /-- Partitions are paused. -/
  | pause (partitions : List TopicPartition)
  /-- Partitions are resumed. -/
  | resume (partitions : List TopicPartition)
  /-- Offsets are stored. -/
  | storeOffsets (partitions : List TopicPartition)
  /-- A message is polled. -/
  | poll (timeout : Nat)
  /-- Offsets are looked up by time. -/
  | offsetsForTimes (partitions : List TopicPartition) (timeout : Nat)
  /-- Watermarks at hand are read. -/
  | cachedWatermarks (key : PartitionKey)
  /-- Watermarks are asked for. -/
  | queryWatermarks (key : PartitionKey) (timeout : Nat)
  /-- The rebalance protocol is asked for. -/
  | rebalanceProtocol
  deriving DecidableEq, Repr, Inhabited

/-- The answer of a call that succeeded. -/
inductive ClientReply where
  /-- There is nothing to tell. -/
  | done
  /-- A name. -/
  | label (value : String)
  /-- A list of topics. -/
  | topics (value : List String)
  /-- A list of partitions. -/
  | partitions (value : List TopicPartition)
  /-- A polled message. -/
  | message (value : Message)
  /-- The bounds of a partition. -/
  | watermarks (value : Watermarks)
  deriving DecidableEq, Repr, Inhabited

/-- The answer of a call. -/
structure ClientAnswer where
  /-- The outcome of the call as a whole. -/
  outcome : Except ClientError ClientReply
  /-- The list of partitions as it was written back, where the call writes one. -/
  written : Option (List TopicPartition) := none
  deriving Repr, Inhabited

namespace ClientAnswer

/-- The answer of an action that writes no list back. -/
def ofAction {α : Type} (reply : α → ClientReply) (action : Client.Action α) :
    StateM Link ClientAnswer := do
  pure { outcome := (← action.run).map reply }

/-- The answer of an action with nothing to tell. -/
def ofUnit (action : Client.Action Unit) : StateM Link ClientAnswer :=
  ofAction (fun _ => .done) action

/-- The answer of an action that writes its list back, be it after a failure. -/
def ofWriteBack (action : Client.WriteBack) (partitions : List TopicPartition) :
    StateM Link ClientAnswer := do
  let (outcome, written) ← action partitions
  pure { outcome := outcome.map fun _ => .done, written := some written }

end ClientAnswer

/-- Perform a call. -/
def ClientCall.perform : ClientCall → StateM Link ClientAnswer
  | .name => do pure { outcome := .ok (.label (← get).client.name) }
  | .close => ClientAnswer.ofUnit Client.close
  | .subscribe topics => ClientAnswer.ofUnit (Client.subscribe topics)
  | .unsubscribe => ClientAnswer.ofUnit Client.unsubscribe
  | .subscription => ClientAnswer.ofAction .topics Client.subscriptionTopics
  | .assign partitions => ClientAnswer.ofUnit (Client.assign partitions)
  | .unassign => ClientAnswer.ofUnit Client.unassign
  | .incrementalAssign partitions => ClientAnswer.ofUnit (Client.incrementalAssign partitions)
  | .incrementalUnassign partitions => ClientAnswer.ofUnit (Client.incrementalUnassign partitions)
  | .assignment => ClientAnswer.ofAction .partitions Client.assignedPartitions
  | .commit partitions _ => ClientAnswer.ofUnit (Client.commit partitions)
  | .committed partitions _ => ClientAnswer.ofWriteBack Client.committed partitions
  | .position partitions => ClientAnswer.ofWriteBack Client.position partitions
  | .seek tp _ => ClientAnswer.ofUnit (Client.seek tp)
  | .pause partitions => ClientAnswer.ofWriteBack Client.pause partitions
  | .resume partitions => ClientAnswer.ofWriteBack Client.resume partitions
  | .storeOffsets partitions => ClientAnswer.ofWriteBack Client.storeOffsets partitions
  | .poll timeout => do pure { outcome := .ok (.message (← Client.poll timeout).message) }
  | .offsetsForTimes partitions _ => ClientAnswer.ofWriteBack Client.offsetsForTimes partitions
  | .cachedWatermarks key => ClientAnswer.ofAction .watermarks (Client.watermarks key)
  | .queryWatermarks key _ => ClientAnswer.ofAction .watermarks (Client.watermarks key)
  | .rebalanceProtocol => do
    pure { outcome := .ok (.label (Client.rebalanceProtocolName (← get).client)) }

end LogConsumer
