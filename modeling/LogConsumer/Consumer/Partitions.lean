import LogConsumer.Client.Assignment
import LogConsumer.Consumer

/-!
# Partitions of a consumer

The operations that say which partitions a consumer reads. The set of partitions changes only
after the client has accepted the change, and every change is told to the listeners. What is
assigned may be dropped while the handle is being closed.
-/
namespace LogConsumer.Consumer

/-- Replace the assignment. -/
def assign (partitions : List TopicPartition) : Action Unit := do
  let client ← openHandle
  requireWellFormed partitions
  call client (.assign partitions) (Client.assign partitions)
  update fun consumer => { consumer with partitions := consumer.partitions.replace partitions }
  publish (.assigned partitions.length)

/-- Drop the assignment. -/
def unassign : Action Unit := do
  let client ← anyHandle
  call client .unassign Client.unassign
  update fun consumer => { consumer with partitions := consumer.partitions.clear }
  publish .unassigned

/-- Add to the assignment. -/
def incrementalAssign (partitions : List TopicPartition) : Action Unit := do
  let client ← openHandle
  requireWellFormed partitions
  call client (.incrementalAssign partitions) (Client.incrementalAssign partitions)
  update fun consumer => { consumer with partitions := consumer.partitions.extend partitions }
  publish (.incrementalAssigned partitions.length (← get).consumer.partitions.count)

/-- Take from the assignment. Partitions that are not in the set are passed over. -/
def incrementalUnassign (partitions : List TopicPartition) : Action Unit := do
  let client ← anyHandle
  requireWellFormed partitions
  call client (.incrementalUnassign partitions) (Client.incrementalUnassign partitions)
  let (remaining, unmatched) := (← get).consumer.partitions.removeMatching partitions
  update fun consumer => { consumer with partitions := remaining }
  publish (.incrementalUnassigned (partitions.length - unmatched.length) remaining.count)

/-- Take over the assignment as the client has it. -/
def refreshAssignments : Action Unit := do
  let client ← openHandle
  let current ← call client .assignment Client.assignedPartitions
  update fun consumer => { consumer with partitions := consumer.partitions.replace current }

/-- Take over the assignment as the client has it, and read it. -/
def assignments : Action (List TopicPartition) := do
  refreshAssignments
  pure (← get).consumer.partitions.entries

/-- Partitions are assigned. -/
def hasAssigned (consumer : Consumer) : Bool :=
  0 < consumer.partitions.count

end LogConsumer.Consumer
