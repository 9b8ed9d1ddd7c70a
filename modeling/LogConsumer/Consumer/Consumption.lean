import LogConsumer.Client.Poll
import LogConsumer.Consumer

/-!
# Consuming

Polling one message, and gathering records poll by poll. A poll is counted when it ends. What a
gathering does with each outcome is said by `Gathering.receive` alone, so a bounded consume is that
rule applied to the outcomes of its polls in order.
-/
namespace LogConsumer

/-- What a bounded consume has gathered so far. -/
structure Gathering where
  /-- What was gathered. -/
  batch : Batch := {}
  /-- The timeout of the next poll. -/
  timeout : Nat
  deriving DecidableEq, Repr, Inhabited

/-- Whether a bounded consume goes on. -/
inductive Gathered where
  /-- It goes on. -/
  | going (gathering : Gathering)
  /-- It has ended. -/
  | ended (result : Except ConsumerError Batch)
  deriving Repr, Inhabited

namespace Gathering

/-- What becomes of a gathering by the outcome of a poll. An error ends it, and is reported only
if no record was gathered; an empty poll ends it; the end of a partition and a record are kept.
`next` is the timeout to go on with once there is a record, if it changes then. -/
def receive (gathering : Gathering) (next : Option Nat) : Outcome → Gathered
  | .error error =>
    if gathering.batch.messages.isEmpty then .ended (.error error)
    else .ended (.ok gathering.batch)
  | .ok message =>
    if message.isTimeout then .ended (.ok gathering.batch)
    else
      let batch :=
        if message.isEndOfPartition then
          { gathering.batch with
            endedPartitions := gathering.batch.endedPartitions ++ [message.topicPartition] }
        else
          { gathering.batch with messages := gathering.batch.messages ++ [message] }
      let timeout :=
        match next with
        | some timeout => if batch.messages.isEmpty then gathering.timeout else timeout
        | none => gathering.timeout
      .going { batch, timeout }

end Gathering

namespace Consumer

/-- Begin to poll the open handle. -/
def beginPoll (timeout : Nat) : Action Polled := do
  let client ← openHandle
  let timeout := (← get).consumer.config.clampTimeout timeout
  trace client (.poll timeout)
  onHandle client (Client.poll timeout)

/-- Count the outcome of a poll that ends. -/
def countOutcome (outcome : Outcome) : StateM Site Unit :=
  update fun consumer => { consumer with metrics := consumer.metrics.recordOutcome outcome }

/-- Poll one message. -/
def consume (timeout : Nat) : Action Message := do
  let polled ← beginPoll timeout
  let outcome := Outcome.ofMessage polled.message
  countOutcome outcome
  ExceptT.mk (pure outcome)

/-- The number of records that an entry has yet to read. -/
def unreadRecordsOf (cluster : Cluster) (entry : Assigned) : Nat :=
  match cluster.log? entry.key with
  | some log => ((log.high : Int) - max entry.position log.low).toNat
  | none => 0

/-- The number of records that the entries of an assignment have yet to read. -/
def unreadRecords (cluster : Cluster) : List Assigned → Nat
  | [] => 0
  | entry :: entries => unreadRecordsOf cluster entry + unreadRecords cluster entries

/-- A bound on the polls in a row that can end in anything but an empty poll: one for each
scripted outcome, one for each unread record, one for each end of a partition, which is reported
anew after a record, and one more. -/
def pollBound (site : Site) : Nat :=
  match site.consumer.connection.connected? with
  | none => 1
  | some client =>
    let entries := (Client.joined ⟨client, site.cluster⟩).assignment
    (site.cluster.script .poll).length + 2 * unreadRecords site.cluster entries +
      entries.length + 1

/-- Gather records until there are `count` of them or an outcome ends the gathering, in at most
`limit` polls. -/
def gather (count : Nat) (next : Option Nat) :
    (limit : Nat) → Gathering → StateM Site (Except ConsumerError Batch)
  | 0, gathering => pure (.ok gathering.batch)
  | limit + 1, gathering => do
    if count ≤ gathering.batch.messages.length then pure (.ok gathering.batch)
    else
      let outcome ← (consume gathering.timeout).run
      match gathering.receive next outcome with
      | .going gathering => gather count next limit gathering
      | .ended result => pure result

/-- Poll up to `count` records. With `firstOnly` the timeout holds until the first record has
come, and the polls after it wait no longer than the configured minimum. -/
def consumeMany (count timeout : Nat) (firstOnly : Bool) : Action Batch := ExceptT.mk do
  let site ← get
  let next := if firstOnly then some site.consumer.config.minTimeout else none
  gather count next (pollBound site) { timeout }

end Consumer

end LogConsumer
