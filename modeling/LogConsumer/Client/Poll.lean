import LogConsumer.Client

/-!
# Polling

A poll serves the assignment in turn: it inspects the entries in cyclic order from the cursor on
and answers with the first message one of them has, leaving the cursor just past that entry. An
entry that is inspected has its position raised to the oldest retained record first. A client
that subscribes but reads nothing joins its group by taking every partition of its topics.
-/
namespace LogConsumer

/-- The answer of a poll, and how long it waited for it in milliseconds. -/
structure Polled where
  /-- The answer. -/
  message : Message
  /-- The time spent waiting. -/
  waited : Nat := 0
  deriving DecidableEq, Repr, Inhabited

namespace Client

/-- Every partition of every topic subscribed to, topic by topic. -/
def subscribedPartitions (cluster : Cluster) (topics : List String) : List TopicPartition :=
  topics.flatMap fun topic =>
    (List.range (cluster.partitionCount topic)).map fun (number : Nat) =>
      { topic, partition := (number : Int) }

/-- The client after it has joined its group, if it subscribes and reads nothing. -/
def joined (link : Link) : Client :=
  let client := link.client
  if !client.subscription.isEmpty && client.assignment.isEmpty then
    { client with
      assignment := assignedOfList link (subscribedPartitions link.cluster client.subscription)
      cursor := 0 }
  else client

/-- The entry with its position raised to the oldest retained record. -/
def raised (cluster : Cluster) (entry : Assigned) : Assigned :=
  match cluster.log? entry.key with
  | some log => { entry with position := max entry.position log.low }
  | none => entry

/-- Inspect one entry: the message it has, if any, and the entry afterwards. A paused entry is
left alone. The end of a partition is reported once until a record is read again. -/
def inspect (cluster : Cluster) (reportsEnd : Bool) (entry : Assigned) :
    Option Message × Assigned :=
  if entry.paused then (none, entry)
  else
    let entry := raised cluster entry
    match cluster.read? entry.key entry.position with
    | some message =>
      let next := entry.position + 1
      (some message, { entry with position := next, stored := some next, endReported := false })
    | none =>
      if reportsEnd && !entry.endReported then
        (some (.endOfPartition entry.topic entry.partition entry.position),
          { entry with endReported := true })
      else (none, entry)

/-- Inspect entries in order up to the first that has a message: its index and the message, and
the entries afterwards. -/
def inspectUpTo (cluster : Cluster) (reportsEnd : Bool) :
    List Assigned → Option (Nat × Message) × List Assigned
  | [] => (none, [])
  | entry :: entries =>
    match inspect cluster reportsEnd entry with
    | (some message, entry) => (some (0, message), entry :: entries)
    | (none, entry) =>
      let (found, entries) := inspectUpTo cluster reportsEnd entries
      (found.map fun (index, message) => (index + 1, message), entry :: entries)

/-- Serve the assignment once around from the cursor on. -/
def serve (cluster : Cluster) (client : Client) : Option Message × Client :=
  let start := client.cursor % client.assignment.length
  let before := client.assignment.take start
  let after := client.assignment.drop start
  match inspectUpTo cluster client.settings.reportsEnd after with
  | (some (index, message), after) =>
    (some message, { client with assignment := before ++ after, cursor := start + index + 1 })
  | (none, after) =>
    match inspectUpTo cluster client.settings.reportsEnd before with
    | (some (index, message), before) =>
      (some message, { client with assignment := before ++ after, cursor := index + 1 })
    | (none, before) => (none, { client with assignment := before ++ after })

/-- Poll one message. A scripted failure and a handle that is shut down answer at once; a poll
that finds nothing waits for its whole timeout. -/
def poll (timeout : Nat) : StateM Link Polled := do
  modify fun link =>
    { link with
      cluster := { link.cluster with
        polls := link.cluster.polls + 1
        lastPollTimeout := some timeout } }
  match ← (takeFault .poll).run with
  | .error error => pure { message := .empty error.code }
  | .ok () =>
    let link ← get
    if link.client.closed then pure { message := .empty .destroy }
    else
      let (found, client) := serve link.cluster (joined link)
      set { link with client }
      match found with
      | some message => pure { message }
      | none => pure { message := .empty .timedOut, waited := timeout }

end Client

end LogConsumer
