import LogConsumer.Cluster
import LogConsumer.Config
import LogConsumer.Text.Ascii

/-!
# Clients

One handle on a cluster: what it is set up with, the topics it subscribes to, the partitions it
reads with its position in each, and the place in the assignment where the next poll starts.
The clients of one cluster share nothing but the cluster, so an action of a client runs on a
`Link`, the client together with its cluster.
-/
namespace LogConsumer

/-- A partition that a client reads. -/
structure Assigned where
  /-- The topic. -/
  topic : String
  /-- The number of the partition. -/
  partition : Int
  /-- The offset of the next record to read. -/
  position : Int
  /-- The offset that a commit without a list takes. -/
  stored : Option Int := none
  /-- The epoch of the partition's leader, if known. -/
  leaderEpoch : Option Int := none
  /-- The partition is not read for now. -/
  paused : Bool := false
  /-- The end of the partition was reported since a record was last read. -/
  endReported : Bool := false
  deriving DecidableEq, Repr, Inhabited

namespace Assigned

/-- What identifies the partition. -/
def key (entry : Assigned) : PartitionKey :=
  (entry.topic, entry.partition)

/-- The first entry of a partition. -/
def find? (entries : List Assigned) (key : PartitionKey) : Option Assigned :=
  entries.find? fun entry => entry.key = key

/-- Change the first entry of a partition; nothing where there is none. -/
def updateFirst? (key : PartitionKey) (change : Assigned → Assigned) :
    List Assigned → Option (List Assigned)
  | [] => none
  | entry :: entries =>
    if entry.key = key then some (change entry :: entries)
    else (updateFirst? key change entries).map (entry :: ·)

end Assigned

/-- What a client is set up with. -/
structure Client.Settings where
  /-- The group to read and commit offsets for. -/
  group : Option String
  /-- Without a committed offset, reading starts at the end of a partition. -/
  resetToLatest : Bool
  /-- The end of a partition is reported. -/
  reportsEnd : Bool
  /-- The group rebalances cooperatively. -/
  cooperative : Bool
  deriving DecidableEq, Repr, Inhabited

/-- The settings of a client, taken from the properties of a configuration. -/
def Client.Settings.ofConfig (config : Config) : Client.Settings :=
  let properties := config.clientProperties
  { group := config.groupId <|> properties.find? "group.id"
    resetToLatest :=
      ["latest", "largest", "end"].any fun name => properties.find? "auto.offset.reset" = some name
    reportsEnd := (properties.find? "enable.partition.eof").any (equalIgnoringCase "true")
    cooperative :=
      (properties.find? "partition.assignment.strategy").any (occursIn "cooperative") }

/-- One handle on a cluster. -/
structure Client where
  /-- The name the handle registered under. -/
  name : String
  /-- The number of the handle, counting all handles of the cluster. -/
  serial : Nat
  /-- What the handle is set up with. -/
  settings : Client.Settings
  /-- The topics subscribed to. -/
  subscription : List String := []
  /-- The partitions read, in the order of their assignment. -/
  assignment : List Assigned := []
  /-- Where in the assignment the next poll starts; it may lie past the end. -/
  cursor : Nat := 0
  /-- The handle has been shut down. -/
  closed : Bool := false
  deriving DecidableEq, Repr, Inhabited

/-- A client with its cluster. -/
structure Link where
  /-- The client. -/
  client : Client
  /-- The cluster it reads. -/
  cluster : Cluster
  deriving DecidableEq, Repr, Inhabited

namespace Client

/-- What a client does on its cluster, and may fail to do. -/
abbrev Action (α : Type) := ExceptT ClientError (StateM Link) α

/-- What a client does with a list of partitions and writes back into it: the outcome of the
call as a whole, and the list with the outcome of each entry. -/
abbrev WriteBack :=
  List TopicPartition → StateM Link (Except ClientError Unit × List TopicPartition)

/-- Create a handle, unless the cluster refuses it. `fresh` is the random part of a name that is
made up. -/
def create (config : Config) (fresh : String) : StateM Cluster (Except String Client) := do
  let cluster ← get
  match cluster.refusal with
  | some reason => pure (.error reason)
  | none =>
    let serial := cluster.created + 1
    set { cluster with created := serial }
    pure (.ok
      { name := config.resolvedClientId fresh ++ "#consumer-" ++ toString serial
        serial
        settings := .ofConfig config })

/-- Change the client. -/
def update (change : Client → Client) : Action Unit :=
  modify fun link => { link with client := change link.client }

/-- Change the cluster. -/
def updateCluster (change : Cluster → Cluster) : Action Unit :=
  modify fun link => { link with cluster := change link.cluster }

/-- Fail if the cluster scripts a failure for this call of a primitive. -/
def takeFault (primitive : Primitive) : Action Unit := do
  let link ← get
  let (failure, cluster) := link.cluster.takeFault primitive
  set { link with cluster }
  match failure with
  | some error => throw error
  | none => pure ()

/-- Fail once the handle is shut down. -/
def ensureOpen : Action Unit := do
  if (← get).client.closed then throw (.ofCode .destroy)

/-- The group, which a client may lack. -/
def requireGroup : Action String := do
  match (← get).client.settings.group with
  | some group => pure group
  | none => throw (.because .invalidGroupId "group.id not configured")

/-- Fail at the first partition that has no concrete number. -/
def requireConcrete (partitions : List TopicPartition) : Action Unit :=
  match partitions.find? fun tp => tp.partition < 0 with
  | some tp => throw (.because .invalidArg (tp.text ++ " has no concrete partition"))
  | none => pure ()

/-- The offset at which reading starts for a place in a partition. Without a committed offset it
is a bound of the log, and zero where there is no log. -/
def resolve (settings : Settings) (cluster : Cluster) (key : PartitionKey) (offset : Offset) :
    Int :=
  let marks := ((cluster.log? key).map PartitionLog.watermarks).getD { low := 0, high := 0 }
  match offset with
  | .absolute position => position
  | .beginning => marks.low
  | .ending => marks.high
  | .stored | .invalid =>
    (settings.group.bind fun group => cluster.committed? group key).getD
      (if settings.resetToLatest then marks.high else marks.low)

/-- A fresh entry of the assignment for a partition. -/
def assignedOf (settings : Settings) (cluster : Cluster) (tp : TopicPartition) : Assigned :=
  { topic := tp.topic
    partition := tp.partition
    position := resolve settings cluster tp.key tp.offset
    leaderEpoch := tp.leaderEpoch }

/-- Fresh entries for partitions, in their order. -/
def assignedOfList (link : Link) (partitions : List TopicPartition) : List Assigned :=
  partitions.map (assignedOf link.client.settings link.cluster)

end Client

end LogConsumer
