import LogConsumer.Proofs.Client.Frame
import LogConsumer.Proofs.Runs
import LogConsumer.Session.Step

/-!
# Runs of a client and its cluster

A run is a list of steps: calls on the client, steps on the cluster itself, and whatever others
do to the cluster apart from its logs. Two things of a run are watched for one partition: the
records that polls deliver from it, each with the low watermark at its poll, and the records that
were produced to it, each with the offset that its produce answered.
-/
namespace LogConsumer.Link

/-- What can happen at a client and its cluster. -/
inductive Step where
  /-- The client is called. -/
  | call (call : ClientCall)
  /-- Something is done to the cluster itself; a record that is given no time gets `clock`. -/
  | cluster (step : Session.ClusterStep) (clock : Int)
  /-- Others use the cluster: all of it may change but the logs. -/
  | elsewhere (others : Cluster)

/-- A record that a poll delivered. -/
structure Delivery where
  /-- What the poll answered. -/
  message : Message
  /-- The low watermark of the record's partition at that poll. -/
  low : Int

namespace Step

/-- The link after a step. -/
def next (link : Link) : Step → Link
  | .call request => (request.perform link).2
  | .cluster step clock => { link with cluster := (step.perform clock link.cluster).2 }
  | .elsewhere others => { link with cluster := { others with topics := link.cluster.topics } }

/-- The record of a partition that a step delivers: the answer of a poll, if it is one. -/
def delivery? (key : PartitionKey) (link : Link) : Step → Option Delivery
  | .call (.poll timeout) =>
    let message := (Client.poll timeout link).1.message
    if message.IsRecordOf key then some ⟨message, link.cluster.low key⟩ else none
  | _ => none

/-- The record that a step adds to a partition, with the offset that is answered for it. -/
def production? (key : PartitionKey) (link : Link) : Step → Option (Int × Record)
  | .cluster (.produce target recordKey payload timestamp) clock =>
    let produce := Session.ClusterStep.produce target recordKey payload timestamp
    match (produce.perform clock link.cluster).1 with
    | .ok (some offset) =>
      if target = key then
        some (offset, { key := recordKey, payload, timestamp := timestamp.getD clock })
      else none
    | _ => none
  | _ => none

/-- The step creates no topic over the log of a partition. -/
def SparesLog (key : PartitionKey) (link : Link) : Step → Prop
  | .cluster (.createTopic topic _) _ => topic = key.1 → link.cluster.log? key = none
  | _ => True

end Step

/-- The link after a run. -/
def run (link : Link) (steps : List Step) : Link :=
  steps.foldl Step.next link

/-- The records of a partition that a run delivers, in the order of their polls. -/
def deliveries (key : PartitionKey) : Link → List Step → List Delivery :=
  collected Step.next fun link step => (step.delivery? key link).toList

/-- The records that a run adds to a partition, in the order of their produces. -/
def productions (key : PartitionKey) : Link → List Step → List (Int × Record) :=
  collected Step.next fun link step => (step.production? key link).toList

/-- Every step of a run meets a condition where it is made. -/
abbrev Throughout (condition : Link → Step → Prop) : Link → List Step → Prop :=
  LogConsumer.Throughout Step.next condition

/-- What the first step of a run delivers comes first. -/
theorem deliveries_cons (key : PartitionKey) (link : Link) (step : Step) (steps : List Step) :
    deliveries key link (step :: steps) =
      (step.delivery? key link).toList ++ deliveries key (step.next link) steps :=
  rfl

/-- What the first step of a run adds comes first. -/
theorem productions_cons (key : PartitionKey) (link : Link) (step : Step) (steps : List Step) :
    productions key link (step :: steps) =
      (step.production? key link).toList ++ productions key (step.next link) steps :=
  rfl

/-- A run of two parts leads where the second part leads from the end of the first. -/
theorem run_append (link : Link) (first second : List Step) :
    run link (first ++ second) = run (run link first) second :=
  List.foldl_append

/-- No call changes a log. -/
theorem call_topics (call : ClientCall) (link : Link) :
    (call.perform link).2.cluster.topics = link.cluster.topics :=
  congrArg Fixture.topics (ClientCall.perform_keeps_fixture call link)

/-- Producing in a step answers with the offset of the record. -/
theorem perform_produce (cluster : Cluster) (target : PartitionKey) (recordKey : Option Bytes)
    (payload : Bytes) (timestamp : Option Int) (clock : Int) {record : Record}
    (made : { key := recordKey, payload, timestamp := timestamp.getD clock } = record) :
    (Session.ClusterStep.produce target recordKey payload timestamp).perform clock cluster =
      ((cluster.produce target record).1.map fun (offset : Nat) => some (offset : Int),
        (cluster.produce target record).2) := by
  subst made
  let record : Record := { key := recordKey, payload, timestamp := timestamp.getD clock }
  have unfolded :
      (Session.ClusterStep.produce target recordKey payload timestamp).perform clock cluster =
        (((cluster.produce target record).1 >>= fun offset => pure (offset : Int)).map some,
          (cluster.produce target record).2) := rfl
  rw [unfolded]
  cases (cluster.produce target record).1 <;> rfl

/-- What a step does to the log of a partition, and what it adds to it. -/
inductive LogChange (key : PartitionKey) (link : Link) (step : Step) : Prop where
  /-- Nothing happens to the log. -/
  | kept (same : (step.next link).cluster.log? key = link.cluster.log? key)
    (silent : step.production? key link = none)
  /-- The log is brought, and is empty. -/
  | brought (missing : link.cluster.log? key = none)
    (empty : (step.next link).cluster.log? key = some {})
    (silent : step.production? key link = none)
  /-- A record is added to the log. -/
  | produced {log : PartitionLog} {record : Record} (found : link.cluster.log? key = some log)
    (longer : (step.next link).cluster.log? key = some (log.produce record).2)
    (produces : step.production? key link = some ((log.high : Int), record))
  /-- Records are dropped from the log. -/
  | truncated {log : PartitionLog} {before : Int} (found : link.cluster.log? key = some log)
    (shorter : (step.next link).cluster.log? key = some (log.deleteBefore before))
    (silent : step.production? key link = none)

namespace LogChange

variable (key : PartitionKey) (link : Link) (clock : Int)

/-- What creating a topic does to a log that it spares. -/
theorem createTopic {topic : String} (partitions : Nat)
    (spares : topic = key.1 → link.cluster.log? key = none) :
    LogChange key link (.cluster (.createTopic topic partitions) clock) := by
  have next : (Step.next link (.cluster (.createTopic topic partitions) clock)).cluster.log? key =
      _ := Cluster.log?_createTopic link.cluster topic partitions key
  by_cases renewed : topic = key.1
  · rw [if_pos renewed] at next
    cases made : Cluster.partitionLog? (List.replicate partitions {}) key.2 with
    | none => exact .kept (next.trans (made.trans (spares renewed).symm)) rfl
    | some log =>
      rw [Cluster.partitionLog?_replicate made] at made
      exact .brought (spares renewed) (next.trans made) rfl
  · rw [if_neg renewed] at next
    exact .kept next rfl

/-- What producing does to a log. -/
theorem produce (target : PartitionKey) (recordKey : Option Bytes) (payload : Bytes)
    (timestamp : Option Int) :
    LogChange key link (.cluster (.produce target recordKey payload timestamp) clock) := by
  generalize made : ({ key := recordKey, payload, timestamp := timestamp.getD clock } :
    Record) = record
  have performed := perform_produce link.cluster target recordKey payload timestamp clock made
  obtain ⟨_, error, result⟩ | ⟨log, found, result⟩ :=
    Cluster.produce_cases link.cluster target record <;> rw [result] at performed
  · refine .kept ?_ ?_
    · rw [Step.next, performed]
    · rw [Step.production?, performed]
      rfl
  · by_cases here : target = key
    · subst here
      refine @LogChange.produced _ _ _ log record found ?_ ?_
      · rw [Step.next, performed, Cluster.log?_putLog found, if_pos rfl]
      · simp [Step.production?, performed, Except.map, made]
    · refine .kept ?_ ?_
      · rw [Step.next, performed, Cluster.log?_putLog found, if_neg fun same => here same.symm]
      · simp [Step.production?, performed, Except.map, here]

/-- What deleting records does to a log. -/
theorem deleteRecords (target : PartitionKey) (before : Int) :
    LogChange key link (.cluster (.deleteRecords target before) clock) := by
  have next : (Step.next link (.cluster (.deleteRecords target before) clock)).cluster =
      (link.cluster.deleteRecords target before).2 := rfl
  obtain ⟨_, error, result⟩ | ⟨log, found, result⟩ :=
    Cluster.deleteRecords_cases link.cluster target before <;> rw [result] at next
  · exact .kept (by rw [next]) rfl
  · by_cases here : target = key
    · subst here
      exact .truncated found (by rw [next, Cluster.log?_putLog found, if_pos rfl]) rfl
    · refine .kept ?_ rfl
      rw [next, Cluster.log?_putLog found, if_neg fun same => here same.symm]

end LogChange

/-- What a step does to the log of a partition that it spares. -/
theorem Step.logChange {key : PartitionKey} {link : Link} {step : Step}
    (spares : step.SparesLog key link) : LogChange key link step := by
  cases step with
  | call request => exact .kept (Cluster.log?_congr (call_topics request link) key) rfl
  | elsewhere others => exact .kept (Cluster.log?_congr rfl key) rfl
  | cluster step clock =>
    cases step with
    | createTopic topic partitions => exact .createTopic key link clock partitions spares
    | produce target recordKey payload timestamp =>
      exact .produce key link clock target recordKey payload timestamp
    | deleteRecords target before => exact .deleteRecords key link clock target before
    | failNext | failAfter | refuse | committedOffset | pollCount | lastPollTimeout
    | clientsCreated => exact .kept (Cluster.log?_congr rfl key) rfl

end LogConsumer.Link
