import LogConsumer.ClientError
import LogConsumer.Cluster.Log

/-!
# Clusters

What all clients share: the logs of the topics, the offsets committed for each group, and the
counters of handles and polls. A cluster can be told to refuse connections and to fail coming
calls of a primitive; such failures are scripted per primitive and used up in order.
-/
namespace LogConsumer

/-- The primitives of a client that can be made to fail. -/
inductive Primitive where
  /-- Shutting the handle down. -/
  | close
  /-- Subscribing to topics. -/
  | subscribe
  /-- Replacing the assignment. -/
  | assign
  /-- Dropping the assignment. -/
  | unassign
  /-- Adding to the assignment. -/
  | incrementalAssign
  /-- Taking from the assignment. -/
  | incrementalUnassign
  /-- Reading the assignment. -/
  | assignment
  /-- Committing offsets. -/
  | commit
  /-- Looking up committed offsets. -/
  | committed
  /-- Moving a position. -/
  | seek
  /-- Storing offsets for the next commit. -/
  | offsetsStore
  /-- Polling a message. -/
  | poll
  /-- Reading watermarks. -/
  | watermarks
  /-- Looking up offsets by time. -/
  | offsetsForTimes
  deriving DecidableEq, Repr, Inhabited

namespace Primitive

/-- Every primitive, in declaration order. -/
def all : List Primitive :=
  [close, subscribe, assign, unassign, incrementalAssign, incrementalUnassign, assignment,
    commit, committed, seek, offsetsStore, poll, watermarks, offsetsForTimes]

/-- The name of a primitive in scripts. -/
def name : Primitive → String
  | close => "Close"
  | subscribe => "Subscribe"
  | assign => "Assign"
  | unassign => "Unassign"
  | incrementalAssign => "IncrementalAssign"
  | incrementalUnassign => "IncrementalUnassign"
  | assignment => "Assignment"
  | commit => "Commit"
  | committed => "Committed"
  | seek => "Seek"
  | offsetsStore => "OffsetsStore"
  | poll => "Poll"
  | watermarks => "Watermarks"
  | offsetsForTimes => "OffsetsForTimes"

/-- The primitive of a name. -/
def ofName? (text : String) : Option Primitive :=
  all.find? fun primitive => primitive.name = text

end Primitive

/-- What a committed offset belongs to: a partition, for one group. -/
structure CommitKey where
  /-- The group. -/
  group : String
  /-- The partition. -/
  partition : PartitionKey
  deriving DecidableEq, Repr, Inhabited

/-- The shared state behind all clients. -/
structure Cluster where
  /-- The partition logs of each topic. -/
  topics : Table String (List PartitionLog) := .empty
  /-- The next offset to read, for each group and partition that has committed one. -/
  commits : Table CommitKey Int := .empty
  /-- What becomes of the coming calls of each primitive: one entry a call, `none` where the
  call is let through. -/
  faults : Table Primitive (List (Option ClientError)) := .empty
  /-- Why no handle can be created, while that is so. -/
  refusal : Option String := none
  /-- How many handles were created. -/
  created : Nat := 0
  /-- How many polls were made. -/
  polls : Nat := 0
  /-- The timeout of the last poll. -/
  lastPollTimeout : Option Nat := none
  deriving DecidableEq, Repr

namespace Cluster

instance : Inhabited Cluster := ⟨{}⟩

/-- The log at a number in a list of partitions. -/
def partitionLog? (partitions : List PartitionLog) (partition : Int) : Option PartitionLog :=
  if 0 ≤ partition then partitions[partition.toNat]? else none

/-- The log of a partition; the error tells a missing topic from a missing partition. -/
def log (cluster : Cluster) (key : PartitionKey) : Except ClientError PartitionLog :=
  match cluster.topics.find? key.1 with
  | none => .error (.because .unknownTopic key.1)
  | some partitions =>
    match partitionLog? partitions key.2 with
    | none => .error (.ofCode .unknownPartition)
    | some log => .ok log

/-- The log of a partition, if there is one. -/
def log? (cluster : Cluster) (key : PartitionKey) : Option PartitionLog :=
  (cluster.log key).toOption

/-- The number of partitions of a topic, none where the topic is missing. -/
def partitionCount (cluster : Cluster) (topic : String) : Nat :=
  ((cluster.topics.find? topic).map List.length).getD 0

/-- Replace the log of a partition that exists. -/
def putLog (cluster : Cluster) (key : PartitionKey) (log : PartitionLog) : Cluster :=
  match cluster.topics.find? key.1 with
  | none => cluster
  | some partitions =>
    { cluster with topics := cluster.topics.insert key.1 (partitions.set key.2.toNat log) }

/-- Create a topic with empty partitions; a topic of the same name is replaced. -/
def createTopic (cluster : Cluster) (topic : String) (partitions : Nat) : Cluster :=
  { cluster with topics := cluster.topics.insert topic (List.replicate partitions {}) }

/-- Add a record to a partition; the answer is its offset. -/
def produce (cluster : Cluster) (key : PartitionKey) (record : Record) :
    Except ClientError Nat × Cluster :=
  match cluster.log key with
  | .error error => (.error error, cluster)
  | .ok log =>
    let (offset, log) := log.produce record
    (.ok offset, cluster.putLog key log)

/-- Drop the records of a partition below an offset. A missing topic is reported as a missing
partition. -/
def deleteRecords (cluster : Cluster) (key : PartitionKey) (before : Int) :
    Except ClientError Unit × Cluster :=
  match cluster.log? key with
  | none => (.error (.ofCode .unknownPartition), cluster)
  | some log => (.ok (), cluster.putLog key (log.deleteBefore before))

/-- The bounds of the retained part of a partition. -/
def watermarks (cluster : Cluster) (key : PartitionKey) : Except ClientError Watermarks :=
  (cluster.log key).map PartitionLog.watermarks

/-- The message of the record at an offset of a partition. -/
def read? (cluster : Cluster) (key : PartitionKey) (offset : Int) : Option Message := do
  let log ← cluster.log? key
  let record ← log.record? offset
  pure
    { topic := key.1
      partition := key.2
      offset
      key := record.key
      payload := some record.payload
      timestamp := some record.timestamp
      leaderEpoch := some 0 }

/-- The offset committed by a group for a partition. -/
def committed? (cluster : Cluster) (group : String) (key : PartitionKey) : Option Int :=
  cluster.commits.find? ⟨group, key⟩

/-- Commit an offset for a group. -/
def commit (cluster : Cluster) (group : String) (key : PartitionKey) (offset : Int) : Cluster :=
  { cluster with commits := cluster.commits.insert ⟨group, key⟩ offset }

/-- What becomes of the coming calls of a primitive. -/
def script (cluster : Cluster) (primitive : Primitive) : List (Option ClientError) :=
  (cluster.faults.find? primitive).getD []

/-- Script the coming calls of a primitive, after those already scripted. -/
def extendScript (cluster : Cluster) (primitive : Primitive)
    (calls : List (Option ClientError)) : Cluster :=
  { cluster with
    faults := cluster.faults.insert primitive (cluster.script primitive ++ calls) }

/-- Fail the next call of a primitive that is not scripted yet. -/
def failNext (cluster : Cluster) (primitive : Primitive) (error : ClientError) : Cluster :=
  cluster.extendScript primitive [some error]

/-- Let a number of calls of a primitive through and fail the one after them. -/
def failAfter (cluster : Cluster) (primitive : Primitive) (successes : Nat)
    (error : ClientError) : Cluster :=
  cluster.extendScript primitive (List.replicate successes none ++ [some error])

/-- Use up the script entry of one call: its failure, if it is to fail. -/
def takeFault (cluster : Cluster) (primitive : Primitive) : Option ClientError × Cluster :=
  match cluster.script primitive with
  | [] => (none, cluster)
  | outcome :: rest =>
    (outcome, { cluster with faults := cluster.faults.insert primitive rest })

/-- Refuse to create handles for a reason, or no longer. -/
def refuse (cluster : Cluster) (reason : Option String) : Cluster :=
  { cluster with refusal := reason }

end Cluster

end LogConsumer
