import LogConsumer.Client.Offsets
import LogConsumer.Consumer

/-!
# Offsets of a consumer

Commits, positions, pausing, stored offsets and look-ups. Every timeout handed to the client is
raised to the configured minimum.
-/
namespace LogConsumer.Consumer

/-- A timeout raised to the configured minimum. -/
def clamped (timeout : Nat) : Action Nat := do
  pure ((← get).consumer.config.clampTimeout timeout)

/-- Commit a list of offsets, or the stored ones. Every commit that reaches the client is
counted. -/
def commit (partitions : Option (List TopicPartition)) (mode : CommitMode) : Action Unit := do
  let client ← openHandle
  requireWellFormed (partitions.getD [])
  trace client (.commit partitions mode)
  let outcome ← onHandle client (Client.commit partitions).run
  update fun consumer =>
    { consumer with metrics := consumer.metrics.recordCommit outcome.toBool }
  match outcome with
  | .ok () => pure ()
  | .error error => throw (.protocol error)

/-- Move the position of an assigned partition. -/
def seek (tp : TopicPartition) (timeout : Nat) : Action Unit := do
  let client ← openHandle
  requireWellFormed [tp]
  let timeout ← clamped timeout
  call client (.seek tp timeout) (Client.seek tp)

/-- Look up the offsets that the group has committed. -/
def committed (partitions : List TopicPartition) (timeout : Nat) :
    Action (List TopicPartition) := do
  let client ← openHandle
  requireWellFormed partitions
  let timeout ← clamped timeout
  callOnList client (.committed · timeout) Client.committed partitions

/-- Read positions. -/
def position (partitions : List TopicPartition) : Action (List TopicPartition) := do
  let client ← openHandle
  requireWellFormed partitions
  callHookedOnList .position client .position Client.position partitions

/-- Stop reading partitions for now. -/
def pause (partitions : List TopicPartition) : Action (List TopicPartition) := do
  let client ← openHandle
  requireWellFormed partitions
  callHookedOnList .pause client .pause Client.pause partitions

/-- Read partitions again. -/
def resume (partitions : List TopicPartition) : Action (List TopicPartition) := do
  let client ← openHandle
  requireWellFormed partitions
  callHookedOnList .resume client .resume Client.resume partitions

/-- Store offsets for the next commit, which takes a subscription. -/
def storeOffsets (partitions : List TopicPartition) : Action (List TopicPartition) := do
  if !(← get).consumer.isSubscribed then throw (.state .notSubscribed)
  let client ← openHandle
  requireWellFormed partitions
  callOnList client .storeOffsets Client.storeOffsets partitions

/-- Store one offset, given as a wire number, for the next commit. -/
def storeOffset (key : PartitionKey) (offset : Int) (leaderEpoch : Option Int) : Action Unit := do
  let tp : TopicPartition :=
    { topic := key.1, partition := key.2, offset := .ofRaw offset, leaderEpoch }
  let _ ← storeOffsets [tp]

/-- Look up offsets by time. -/
def offsetsForTimes (partitions : List TopicPartition) (timeout : Nat) :
    Action (List TopicPartition) := do
  let client ← openHandle
  requireWellFormed partitions
  let timeout ← clamped timeout
  callOnList client (.offsetsForTimes · timeout) Client.offsetsForTimes partitions

/-- Read the watermarks that the client has at hand. -/
def cachedWatermarks (key : PartitionKey) : Action Watermarks := do
  let client ← openHandle
  call client (.cachedWatermarks key) (Client.watermarks key)

/-- Ask the leader of the partition for its watermarks. -/
def queryWatermarks (key : PartitionKey) (timeout : Nat) : Action Watermarks := do
  let client ← openHandle
  let timeout ← clamped timeout
  call client (.queryWatermarks key timeout) (Client.watermarks key)

end LogConsumer.Consumer
