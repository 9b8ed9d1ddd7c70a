import LogConsumer.Message

/-!
# Metrics

Counters of what a consumer has polled and committed. They are 64-bit words and wrap around.
-/
namespace LogConsumer

/-- The counters of a consumer. -/
structure Metrics where
  /-- Records polled. -/
  messagesConsumed : UInt64 := 0
  /-- Bytes of keys and contents of the records polled. -/
  bytesConsumed : UInt64 := 0
  /-- Polls that saw the end of a partition. -/
  partitionEofs : UInt64 := 0
  /-- Polls that saw nothing in time. -/
  pollTimeouts : UInt64 := 0
  /-- Polls that failed. -/
  consumeErrors : UInt64 := 0
  /-- Commits handed to the client. -/
  commitsSubmitted : UInt64 := 0
  /-- Commits that the client refused. -/
  commitFailures : UInt64 := 0
  deriving DecidableEq, Repr, Inhabited

namespace Metrics

/-- Count the result of a poll: a record with its bytes, the end of a partition, or an empty
poll. A failed poll moves no counter here. -/
def recordPoll (metrics : Metrics) (message : Message) : Metrics :=
  if message.hasData then
    { metrics with
      messagesConsumed := metrics.messagesConsumed + 1
      bytesConsumed := metrics.bytesConsumed + UInt64.ofNat message.size }
  else if message.isEndOfPartition then
    { metrics with partitionEofs := metrics.partitionEofs + 1 }
  else if message.isTimeout then
    { metrics with pollTimeouts := metrics.pollTimeouts + 1 }
  else metrics

/-- Count a failed poll. -/
def recordConsumeError (metrics : Metrics) : Metrics :=
  { metrics with consumeErrors := metrics.consumeErrors + 1 }

/-- Count a commit handed to the client, and whether it was refused. -/
def recordCommit (metrics : Metrics) (succeeded : Bool) : Metrics :=
  { metrics with
    commitsSubmitted := metrics.commitsSubmitted + 1
    commitFailures := metrics.commitFailures + if succeeded then 0 else 1 }

end Metrics

end LogConsumer
