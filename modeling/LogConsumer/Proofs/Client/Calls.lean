import LogConsumer.Client.Call
import LogConsumer.Proofs.Cluster.Commits
import LogConsumer.Proofs.Actions

/-!
# What the calls on a client keep

Every primitive of a client begins by using up a scripted outcome, may refuse, and then changes
the client or the cluster in one place. So a view that does not look at the scripts is kept as
soon as that one change keeps it.
-/
namespace LogConsumer.Client

variable {α ν : Type} {view : Link → ν}

/-- A view that does not look at the scripted outcomes. -/
def IgnoresScripts (view : Link → ν) : Prop :=
  ∀ (link : Link) (faults : Table Primitive (List (Option ClientError))),
    view { link with cluster := { link.cluster with faults } } = view link

/-- Using up a scripted outcome fails as scripted and leaves the cluster with the rest of its
script. -/
theorem takeFault_run (primitive : Primitive) (link : Link) :
    (takeFault primitive).run link =
      ((match (link.cluster.takeFault primitive).1 with
        | some error => .error error
        | none => .ok ()),
        { link with cluster := (link.cluster.takeFault primitive).2 }) := by
  have unfolded : (takeFault primitive).run link =
      (match (link.cluster.takeFault primitive).1 with
        | some error => (throw error : Action Unit)
        | none => pure ()).run { link with cluster := (link.cluster.takeFault primitive).2 } := rfl
  rw [unfolded]
  cases (link.cluster.takeFault primitive).1 <;> rfl

/-- Using up a scripted outcome keeps what does not look at scripts. -/
theorem keeps_takeFault (scripts : IgnoresScripts view) (primitive : Primitive) :
    Keeps view (takeFault primitive).run := by
  intro link
  rw [takeFault_run, Cluster.takeFault_rest]
  exact scripts link _

/-- Asking for an open handle keeps every view. -/
theorem keeps_ensureOpen : Keeps view ensureOpen.run :=
  .afterReading fun _ => .either (.throw _) (.pure _)

/-- Asking for a group keeps every view. -/
theorem keeps_requireGroup : Keeps view requireGroup.run := by
  apply Keeps.afterReading
  intro link
  cases link.client.settings.group with
  | none => exact .throw _
  | some group => exact .pure _

/-- Asking for the group of a client that has one changes nothing. -/
theorem requireGroup_run {link : Link} {group : String}
    (grouped : link.client.settings.group = some group) :
    requireGroup.run link = (.ok group, link) := by
  unfold requireGroup
  rw [run_get, grouped]
  rfl

/-- Asking for the group of a client that has none fails and changes nothing. -/
theorem requireGroup_refused {link : Link} (ungrouped : link.client.settings.group = none) :
    requireGroup.run link =
      (.error (.because .invalidGroupId "group.id not configured"), link) := by
  unfold requireGroup
  rw [run_get, ungrouped]
  rfl

/-- Asking for concrete partitions keeps every view. -/
theorem keeps_requireConcrete (partitions : List TopicPartition) :
    Keeps view (requireConcrete partitions).run := by
  unfold requireConcrete
  split
  · exact .throw _
  · exact .pure _

/-- Changing the client keeps what the change keeps. -/
theorem keeps_update {change : Client → Client}
    (unchanged : ∀ link, view { link with client := change link.client } = view link) :
    Keeps view (update change).run :=
  unchanged

/-- Shutting down keeps what does not look at what a shut handle loses. -/
theorem keeps_close (scripts : IgnoresScripts view)
    (unchanged : ∀ link, view { link with client :=
      { link.client with closed := true, subscription := [], assignment := [] } } = view link) :
    Keeps view close.run :=
  .bind (keeps_takeFault scripts _) fun _ => .bind (.change unchanged) fun _ => .pure _

/-- Subscribing keeps what does not look at the subscription and the assignment. -/
theorem keeps_subscribe (scripts : IgnoresScripts view) (topics : List String)
    (unchanged : ∀ link, view { link with client :=
      { link.client with subscription := topics, assignment := [] } } = view link) :
    Keeps view (subscribe topics).run := by
  apply Keeps.andThen (keeps_takeFault scripts _)
  intro _
  have rest : Keeps view (do
      ensureOpen
      update fun client => { client with subscription := topics, assignment := [] } :
        Action Unit).run :=
    .andThen keeps_ensureOpen fun _ => keeps_update unchanged
  exact .either (.andThen (.throw _) fun _ => rest) rest

/-- Replacing the assignment keeps what the replacement keeps. -/
theorem keeps_assign (scripts : IgnoresScripts view) (partitions : List TopicPartition)
    (unchanged : ∀ (link : Link) (entries : List Assigned), view { link with client :=
      { link.client with assignment := entries, cursor := 0 } } = view link) :
    Keeps view (assign partitions).run :=
  .andThen (keeps_takeFault scripts _) fun _ => .andThen (keeps_requireConcrete _) fun _ =>
    .andThen keeps_ensureOpen fun _ => .afterReading fun _ =>
      keeps_update fun link => unchanged link _

/-- Dropping the assignment keeps what does not look at it. -/
theorem keeps_unassign (scripts : IgnoresScripts view)
    (unchanged : ∀ link, view { link with client :=
      { link.client with assignment := [], cursor := 0 } } = view link) :
    Keeps view unassign.run :=
  .andThen (keeps_takeFault scripts _) fun _ => keeps_update unchanged

/-- Adding to the assignment keeps what the addition keeps; nothing that is added was assigned
before. -/
theorem keeps_incrementalAssign (scripts : IgnoresScripts view) (partitions : List TopicPartition)
    (unchanged : ∀ link : Link,
      (∀ tp ∈ partitions, Assigned.find? link.client.assignment tp.key = none) →
      view { link with client := { link.client with
        assignment := link.client.assignment ++ assignedOfList link partitions } } = view link) :
    Keeps view (incrementalAssign partitions).run := by
  apply Keeps.andThen (keeps_takeFault scripts _)
  intro _
  apply Keeps.andThen (keeps_requireConcrete _)
  intro _
  apply Keeps.andThen keeps_ensureOpen
  intro _
  apply Keeps.reading
  intro link
  split
  · rfl
  · rename_i apart
    exact unchanged link (by simpa using apart)

/-- Taking from the assignment keeps what the filter keeps. -/
theorem keeps_incrementalUnassign (scripts : IgnoresScripts view)
    (partitions : List TopicPartition)
    (unchanged : ∀ link : Link, view { link with client := { link.client with
      assignment := link.client.assignment.filter fun entry =>
        !partitions.any fun tp => entry.key = tp.key
      cursor := 0 } } = view link) :
    Keeps view (incrementalUnassign partitions).run :=
  .andThen (keeps_takeFault scripts _) fun _ => keeps_update unchanged

/-- Reading the assignment keeps what does not look at scripts. -/
theorem keeps_assignedPartitions (scripts : IgnoresScripts view) :
    Keeps view assignedPartitions.run :=
  .andThen (keeps_takeFault scripts _) fun _ => .afterReading fun _ => .pure _

/-- Committing keeps what does not look at the committed offsets. -/
theorem keeps_commit (scripts : IgnoresScripts view) (partitions : Option (List TopicPartition))
    (unchanged : ∀ (link : Link) (pending : List (PartitionKey × Int)) (group : String),
      view { link with cluster := link.cluster.commitAll group pending } = view link) :
    Keeps view (commit partitions).run := by
  apply Keeps.andThen (keeps_takeFault scripts _)
  intro _
  apply Keeps.andThen keeps_requireGroup
  intro group
  apply Keeps.reading
  intro link
  have taken (pending : List (PartitionKey × Int)) : Keeps view (do
      if pending.isEmpty then throw (.ofCode .noOffset)
      updateCluster fun cluster =>
        pending.foldl (fun cluster entry => cluster.commit group entry.1 entry.2) cluster :
        Action Unit).run := by
    have rest : Keeps view (updateCluster fun cluster =>
        pending.foldl (fun cluster entry => cluster.commit group entry.1 entry.2) cluster).run :=
      fun link => unchanged link pending group
    exact .either (.andThen (.throw _) fun _ => rest) rest
  exact taken _ link

/-- Looking committed offsets up keeps what does not look at scripts. -/
theorem keeps_committed (scripts : IgnoresScripts view) (partitions : List TopicPartition) :
    Keeps view (committed partitions) := by
  apply Keeps.bind (.andThen (keeps_takeFault scripts _) fun _ => keeps_requireGroup)
  intro outcome
  cases outcome with
  | error error => exact .pure _
  | ok group => exact .bind .get fun _ => .pure _

/-- Reading positions keeps every view. -/
theorem keeps_position (partitions : List TopicPartition) : Keeps view (position partitions) :=
  .bind .get fun _ => .pure _

/-- Moving a position keeps what the move keeps. -/
theorem keeps_seek (scripts : IgnoresScripts view) (tp : TopicPartition)
    (unchanged : ∀ (link : Link) (place : Int) (entries : List Assigned),
      Assigned.updateFirst? tp.key
        (fun entry => { entry with position := place, endReported := false })
        link.client.assignment = some entries →
      view { link with client := { link.client with assignment := entries } } = view link) :
    Keeps view (seek tp).run := by
  apply Keeps.andThen (keeps_takeFault scripts _)
  intro _
  apply Keeps.reading
  intro link
  dsimp only
  split
  · rename_i entries moved
    exact unchanged link _ entries moved
  · rfl

/-- Running through a list keeps what the changes entry by entry keep together. -/
theorem keeps_sweepAssignment
    (visit : TopicPartition → List Assigned → TopicPartition × List Assigned)
    (partitions : List TopicPartition)
    (unchanged : ∀ link : Link, view { link with client := { link.client with
      assignment := (sweep visit partitions link.client.assignment).2 } } = view link) :
    Keeps view (sweepAssignment visit partitions) :=
  unchanged

/-- Storing offsets keeps what the changes entry by entry keep together. -/
theorem keeps_storeOffsets (scripts : IgnoresScripts view) (partitions : List TopicPartition)
    (unchanged : ∀ link : Link, view { link with client := { link.client with
      assignment := (sweep storeOffset partitions link.client.assignment).2 } } = view link) :
    Keeps view (storeOffsets partitions) := by
  apply Keeps.bind (keeps_takeFault scripts _)
  intro outcome
  cases outcome with
  | error error => exact .pure _
  | ok _ =>
    apply Keeps.bind (keeps_sweepAssignment _ _ unchanged)
    intro answers
    split <;> exact .pure _

/-- Looking offsets up by time keeps what does not look at scripts. -/
theorem keeps_offsetsForTimes (scripts : IgnoresScripts view) (partitions : List TopicPartition) :
    Keeps view (offsetsForTimes partitions) := by
  apply Keeps.bind (keeps_takeFault scripts _)
  intro outcome
  cases outcome with
  | error error => exact .pure _
  | ok _ => exact .bind .get fun _ => .pure _

/-- Reading watermarks keeps what does not look at scripts. -/
theorem keeps_watermarks (scripts : IgnoresScripts view) (key : PartitionKey) :
    Keeps view (watermarks key).run := by
  apply Keeps.andThen (keeps_takeFault scripts _)
  intro _
  apply Keeps.reading
  intro link
  split <;> rfl

end LogConsumer.Client
