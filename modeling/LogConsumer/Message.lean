import LogConsumer.Table
import LogConsumer.TopicPartition

/-!
# Messages

The result of one poll. The error code of a message says what it is: a record (`noError`), the
end of a partition (`partitionEof`), a poll that saw nothing (`timedOut`, `timedOutQueue`) or a
failed poll (any other code).
-/
namespace LogConsumer

/-- A sequence of bytes. -/
abbrev Bytes := List UInt8

/-- What a poll returns. -/
structure Message where
  /-- The topic of the record, empty where there is none. -/
  topic : String
  /-- The partition of the record. -/
  partition : Int
  /-- The offset of the record, as a wire number. -/
  offset : Int
  /-- The key of the record. -/
  key : Option Bytes := none
  /-- The content of the record. -/
  payload : Option Bytes := none
  /-- The headers of the record. -/
  headers : Table String String := .empty
  /-- When the record was written, in milliseconds. -/
  timestamp : Option Int := none
  /-- The epoch of the leader that served the record. -/
  leaderEpoch : Option Int := none
  /-- What kind of result this is. -/
  error : ErrorCode := .noError
  deriving DecidableEq, Repr

namespace Message

/-- A result that carries nothing but its code. -/
def empty (error : ErrorCode) : Message :=
  { topic := "", partition := unassignedPartition, offset := Offset.invalid.raw, error }

instance : Inhabited Message := ⟨empty .noError⟩

/-- The end of a partition, seen at an offset. -/
def endOfPartition (topic : String) (partition offset : Int) : Message :=
  { empty .partitionEof with topic, partition, offset }

/-- The end of a partition was seen. -/
def isEndOfPartition (message : Message) : Bool :=
  message.error = .partitionEof

/-- The poll saw nothing in time. -/
def isTimeout (message : Message) : Bool :=
  message.error = .timedOut || message.error = .timedOutQueue

/-- The result is a record. -/
def hasData (message : Message) : Bool :=
  message.error = .noError

/-- The number of bytes of key and content together. -/
def size (message : Message) : Nat :=
  (message.key.map List.length).getD 0 + (message.payload.map List.length).getD 0

/-- The partition of the message, at the place its offset stands for. -/
def topicPartition (message : Message) : TopicPartition :=
  { topic := message.topic
    partition := message.partition
    offset := .ofRaw message.offset }

end Message

/-- What a bounded consume gathered: records, and the partitions whose end was seen. -/
structure Batch where
  /-- The records, in the order in which they were polled. -/
  messages : List Message := []
  /-- Where the end of a partition was seen, in the order of the polls. -/
  endedPartitions : List TopicPartition := []
  deriving DecidableEq, Repr, Inhabited

end LogConsumer
