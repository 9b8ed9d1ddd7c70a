import LogConsumer.Client.Call
import LogConsumer.Connection
import LogConsumer.Metrics
import LogConsumer.RebalanceProtocol

/-!
# Operations of a consumer

The operations of a consumer and their answers as values, so that a script of operations can be
written down, run from inside the close of a handle, and reasoned about as a whole.
-/
namespace LogConsumer

/-- An operation on a consumer. Every timeout is a number of milliseconds. -/
inductive Operation where
  /-- Create and install a handle. -/
  | connect
  /-- Close the handle. -/
  | disconnect
  /-- Replace the subscription. -/
  | subscribe (topics : List String)
  /-- Drop the subscription. -/
  | unsubscribe
  /-- Read the subscription. -/
  | subscription
  /-- Replace the assignment. -/
  | assign (partitions : List TopicPartition)
  /-- Drop the assignment. -/
  | unassign
  /-- Add to the assignment. -/
  | incrementalAssign (partitions : List TopicPartition)
  /-- Take from the assignment. -/
  | incrementalUnassign (partitions : List TopicPartition)
  /-- Take over the client's assignment. -/
  | refreshAssignments
  /-- Take over the client's assignment and read it. -/
  | assignments
  /-- Ask whether partitions are assigned. -/
  | hasAssigned
  /-- Commit a list of offsets, or the stored ones. -/
  | commit (partitions : Option (List TopicPartition)) (mode : CommitMode)
  /-- Poll one message. -/
  | consume (timeout : Nat)
  /-- Poll up to a number of records. -/
  | consumeMany (count timeout : Nat) (firstOnly : Bool)
  /-- Move a position. -/
  | seek (tp : TopicPartition) (timeout : Nat)
  /-- Look up committed offsets. -/
  | committed (partitions : List TopicPartition) (timeout : Nat)
  /-- Read positions. -/
  | position (partitions : List TopicPartition)
  /-- Stop reading partitions for now. -/
  | pause (partitions : List TopicPartition)
  /-- Read partitions again. -/
  | resume (partitions : List TopicPartition)
  /-- Store offsets for the next commit. -/
  | storeOffsets (partitions : List TopicPartition)
  /-- Store one offset, given as a wire number, for the next commit. -/
  | storeOffset (key : PartitionKey) (offset : Int) (leaderEpoch : Option Int)
  /-- Look up offsets by time. -/
  | offsetsForTimes (partitions : List TopicPartition) (timeout : Nat)
  /-- Read the watermarks that the client has at hand. -/
  | cachedWatermarks (key : PartitionKey)
  /-- Ask the leader of the partition for its watermarks. -/
  | queryWatermarks (key : PartitionKey) (timeout : Nat)
  /-- Ask under which protocol the group rebalances. -/
  | rebalanceProtocol
  /-- Read the name of the last handle. -/
  | name
  /-- Ask whether the handle is being closed. -/
  | isClosing
  /-- Ask whether the handle is open. -/
  | isConnected
  /-- Pass events on to listeners. -/
  | activate
  /-- Pass no more events on. -/
  | deactivate
  /-- Read the counters. -/
  | metrics
  deriving DecidableEq, Repr, Inhabited

/-- The answer of an operation that succeeded. -/
inductive Reply where
  /-- There is nothing to tell. -/
  | done
  /-- A yes or no. -/
  | flag (value : Bool)
  /-- A name, if there is one. -/
  | label (value : Option String)
  /-- A list of topics. -/
  | topics (value : List String)
  /-- A list of partitions. -/
  | partitions (value : List TopicPartition)
  /-- A polled message. -/
  | message (value : Message)
  /-- Gathered records. -/
  | batch (value : Batch)
  /-- The bounds of a partition. -/
  | watermarks (value : Watermarks)
  /-- A rebalance protocol. -/
  | protocol (value : RebalanceProtocol)
  /-- The counters. -/
  | metrics (value : Metrics)
  deriving DecidableEq, Repr, Inhabited

/-- An answer, and how the consumer stands after it. -/
structure Report (α : Type) where
  /-- The answer. -/
  outcome : Except ConsumerError α
  /-- The state of the connection. -/
  state : ConnectionState
  /-- The consumer has a subscription. -/
  subscribed : Bool
  /-- The number of partitions assigned. -/
  assigned : Nat
  deriving Repr, Inhabited

end LogConsumer
