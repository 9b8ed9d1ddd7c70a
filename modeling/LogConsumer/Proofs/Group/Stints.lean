import LogConsumer.Proofs.Consumer.Polls
import LogConsumer.Proofs.Runs

/-!
# Stints of a group

A stint is one turn of a consumer at reading for its group: it connects, assigns partitions, works,
commits what it has read, and disconnects. While it works it consumes, and others use the cluster.
Stints of one group follow each other on one cluster; each is that of any consumer that has no
handle, be it a new one or one that had an earlier stint.
-/
namespace LogConsumer

/-- What others do to the cluster. -/
inductive Outside where
  /-- Something is done to the cluster itself; a record that is given no time gets `clock`. -/
  | cluster (step : Session.ClusterStep) (clock : Int)
  /-- Others use the cluster: all of it may change but the logs. -/
  | elsewhere (others : Cluster)

namespace Outside

/-- The cluster afterwards. -/
def next (cluster : Cluster) : Outside → Cluster
  | .cluster step clock => (step.perform clock cluster).2
  | .elsewhere others => { others with topics := cluster.topics }

/-- No topic is created over the log of a partition. -/
def SparesLog (key : PartitionKey) (cluster : Cluster) : Outside → Prop
  | .cluster (.createTopic topic _) _ => topic = key.1 → cluster.log? key = none
  | _ => True

/-- What others do is fair to a group that reads some partitions: they create no topic over a log,
commit nothing for the group, and script no failure of an assignment or a commit. -/
structure Fair (group : String) (keys : List PartitionKey) (cluster : Cluster) (event : Outside) :
    Prop where
  /-- No topic is created over a log. -/
  logs : ∀ key ∈ keys, event.SparesLog key cluster
  /-- Nothing is committed for the group. -/
  commits : ∀ key ∈ keys,
    (event.next cluster).committed? group key = cluster.committed? group key
  /-- No failure of an assignment is scripted. -/
  assigns : cluster.LetsThrough .assign → (event.next cluster).LetsThrough .assign
  /-- No failure of a commit is scripted. -/
  lets : cluster.LetsThrough .commit → (event.next cluster).LetsThrough .commit

end Outside

/-- What happens between the assignment and the commit of a stint. -/
inductive Work where
  /-- The consumer consumes. -/
  | operate (operation : Operation) (consumes : operation.Consumes)
  /-- Others use the cluster. -/
  | outside (event : Outside)

namespace Work

/-- The site afterwards. -/
def next (site : Site) : Work → Site
  | .operate operation _ => (operation.run.run site).2
  | .outside event => { site with cluster := event.next site.cluster }

/-- The records of a partition that are delivered. -/
def deliveries (key : PartitionKey) (site : Site) : Work → List Link.Delivery
  | .operate operation _ => operation.deliveries key site
  | .outside _ => []

/-- What others do is fair. -/
def Fair (group : String) (keys : List PartitionKey) (site : Site) : Work → Prop
  | .operate _ _ => True
  | .outside event => event.Fair group keys site.cluster

end Work

/-- One turn of a consumer at reading for its group. -/
structure Stint where
  /-- What others do before. -/
  before : List Outside
  /-- The consumer. -/
  consumer : Consumer
  /-- The partitions it assigns. -/
  partitions : List TopicPartition
  /-- What happens between the assignment and the commit. -/
  works : List Work

namespace Stint

variable (stint : Stint) (cluster : Cluster)

/-- The cluster when the consumer connects. -/
def opening : Cluster :=
  stint.before.foldl Outside.next cluster

/-- The site when the consumer has connected. -/
def connected : Site :=
  (Operation.connect.run.run { consumer := stint.consumer, cluster := stint.opening cluster }).2

/-- The site when the consumer has assigned its partitions. -/
def assigned : Site :=
  ((Operation.assign stint.partitions).run.run (stint.connected cluster)).2

/-- The site when the consumer has consumed. -/
def worked : Site :=
  stint.works.foldl Work.next (stint.assigned cluster)

/-- The answer of the commit. -/
def verdict : Except ConsumerError Reply :=
  ((Operation.commit none .sync).run.run (stint.worked cluster)).1

/-- The site when the consumer has committed. -/
def committed : Site :=
  ((Operation.commit none .sync).run.run (stint.worked cluster)).2

/-- The cluster when the consumer has disconnected. -/
def next (cluster : Cluster) (stint : Stint) : Cluster :=
  (Operation.disconnect.run.run (stint.committed cluster)).2.cluster

/-- The records of a partition that are delivered. -/
def deliveries (key : PartitionKey) (cluster : Cluster) (stint : Stint) : List Link.Delivery :=
  collected Work.next (Work.deliveries key) (stint.assigned cluster) stint.works

/-- The stint is one of a group that reads some partitions: its consumer has no handle, belongs to
the group, does not start at the end of a partition, and connects; it assigns these partitions, well
formed and where the group left off; and what others do is fair. -/
structure Fair (group : String) (keys : List PartitionKey) (cluster : Cluster) (stint : Stint) :
    Prop where
  /-- The consumer has no handle. -/
  vacant : stint.consumer.connection = .disconnected
  /-- The consumer belongs to the group. -/
  grouped : (Client.Settings.ofConfig stint.consumer.config).group = some group
  /-- Without a committed offset reading starts at the low watermark. -/
  earliest : (Client.Settings.ofConfig stint.consumer.config).resetToLatest = false
  /-- The consumer connects. -/
  connects : (Operation.connect.run.run
    { consumer := stint.consumer, cluster := stint.opening cluster }).1 = .ok .done
  /-- It assigns these partitions. -/
  reads : stint.partitions.map TopicPartition.key = keys
  /-- The partitions are well formed, as the consumer checks. -/
  wellFormed : ∀ tp ∈ stint.partitions, Consumer.inputFault? tp = none
  /-- The partitions are concrete, as the handle checks. -/
  concrete : ∀ tp ∈ stint.partitions, 0 ≤ tp.partition
  /-- Reading goes on where the group left off. -/
  resumes : ∀ tp ∈ stint.partitions, tp.offset = .stored ∨ tp.offset = .invalid
  /-- What others do before is fair. -/
  before : Throughout Outside.next (Outside.Fair group keys) cluster stint.before
  /-- What others do meanwhile is fair. -/
  works : Throughout Work.next (Work.Fair group keys) (stint.assigned cluster) stint.works

end Stint

end LogConsumer
