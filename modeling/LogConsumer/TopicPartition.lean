import LogConsumer.ErrorCode
import LogConsumer.Offset

/-!
# Topic partitions

A topic partition is identified by its topic and its number. The offset, the leader epoch and
the error that travel with it belong to the call that carries it, so they play no part in
`TopicPartition.key`.
-/
namespace LogConsumer

/-- What identifies a partition: its topic and its number. -/
abbrev PartitionKey := String × Int

/-- The number of a partition that names a topic as a whole. -/
def unassignedPartition : Int := -1

/-- A partition together with what one call says about it. -/
structure TopicPartition where
  /-- The topic. -/
  topic : String
  /-- The number of the partition in the topic. -/
  partition : Int
  /-- A place in the partition. -/
  offset : Offset := .invalid
  /-- The epoch of the partition's leader, if known. -/
  leaderEpoch : Option Int := none
  /-- The outcome of a call for this partition. -/
  error : ErrorCode := .noError
  deriving DecidableEq, Repr, Inhabited

namespace TopicPartition

/-- A topic without a concrete partition. -/
def ofTopic (topic : String) : TopicPartition :=
  { topic, partition := unassignedPartition }

/-- The same partition at another place. -/
def withOffset (tp : TopicPartition) (offset : Offset) : TopicPartition :=
  { tp with offset }

/-- The same partition under a known leader epoch. -/
def withLeaderEpoch (tp : TopicPartition) (epoch : Int) : TopicPartition :=
  { tp with leaderEpoch := some epoch }

/-- What identifies the partition. -/
def key (tp : TopicPartition) : PartitionKey :=
  (tp.topic, tp.partition)

/-- Both name the same partition. -/
def samePartition (left right : TopicPartition) : Bool :=
  left.key = right.key

/-- The topic is named without a concrete partition. -/
def isUnassigned (tp : TopicPartition) : Bool :=
  tp.partition = unassignedPartition

/-- The topic with the number of the partition in brackets. -/
def text (tp : TopicPartition) : String :=
  tp.topic ++ "[" ++ toString tp.partition ++ "]"

end TopicPartition

end LogConsumer
