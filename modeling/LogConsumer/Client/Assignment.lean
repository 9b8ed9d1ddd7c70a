import LogConsumer.Client

/-!
# Subscription and assignment of a client

Shutting a handle down, and the primitives that say what it reads. Each of them checks
everything before it changes anything.
-/
namespace LogConsumer.Client

/-- Shut the handle down. A scripted failure is reported, but the handle is shut down all the
same. -/
def close : Action Unit := ExceptT.mk do
  let outcome ← (takeFault .close).run
  modify fun link =>
    { link with
      client := { link.client with closed := true, subscription := [], assignment := [] } }
  pure outcome

/-- Replace the subscription; partitions are assigned by a later poll. -/
def subscribe (topics : List String) : Action Unit := do
  takeFault .subscribe
  if topics.isEmpty then throw (.because .invalidArg "empty topic list")
  ensureOpen
  update fun client => { client with subscription := topics, assignment := [] }

/-- Drop the subscription and what it assigned. -/
def unsubscribe : Action Unit :=
  update fun client => { client with subscription := [], assignment := [] }

/-- The topics subscribed to. -/
def subscriptionTopics : Action (List String) := do
  pure (← get).client.subscription

/-- Replace the assignment. -/
def assign (partitions : List TopicPartition) : Action Unit := do
  takeFault .assign
  requireConcrete partitions
  ensureOpen
  let link ← get
  let entries := assignedOfList link partitions
  update fun client => { client with assignment := entries, cursor := 0 }

/-- Drop the assignment. -/
def unassign : Action Unit := do
  takeFault .unassign
  update fun client => { client with assignment := [], cursor := 0 }

/-- Add to the assignment. A partition that is assigned already conflicts. -/
def incrementalAssign (partitions : List TopicPartition) : Action Unit := do
  takeFault .incrementalAssign
  requireConcrete partitions
  ensureOpen
  let link ← get
  match partitions.find? fun tp => (Assigned.find? link.client.assignment tp.key).isSome with
  | some tp => throw (.because .conflict (tp.text ++ " is already assigned"))
  | none =>
    let entries := assignedOfList link partitions
    update fun client => { client with assignment := client.assignment ++ entries }

/-- Take every entry of the partitions named from the assignment. -/
def incrementalUnassign (partitions : List TopicPartition) : Action Unit := do
  takeFault .incrementalUnassign
  update fun client =>
    { client with
      assignment :=
        client.assignment.filter fun entry => !partitions.any fun tp => entry.key = tp.key
      cursor := 0 }

/-- The partitions assigned, in order. -/
def assignedPartitions : Action (List TopicPartition) := do
  takeFault .assignment
  pure ((← get).client.assignment.map fun entry =>
    { topic := entry.topic, partition := entry.partition })

/-- The name of the protocol under which the group rebalances. -/
def rebalanceProtocolName (client : Client) : String :=
  if client.subscription.isEmpty then "NONE"
  else if client.settings.cooperative then "COOPERATIVE"
  else "EAGER"

end LogConsumer.Client
