import LogConsumer.Proofs.Client.Frame
import LogConsumer.Proofs.Client.Placement
import LogConsumer.Proofs.Cluster.Commits
import LogConsumer.Proofs.Likeness

/-!
# What calls go by that do not poll

A call that does not poll goes by the client and by little of the cluster: its scripts, its logs and
the offsets committed for the client's own group. And it does not go by the cursor, which says only
where the next poll begins. A likeness of links that leaves all this the same, whatever calls do to
it, is a `Link.Likeness`, and every call that does not poll respects it (`Link.Likeness.respects`).
-/
namespace LogConsumer

/-- A change of a client that leaves its settings, and of which the cursor decides nothing but at
most the cursor. -/
structure Client.IgnoresCursor (change : Client → Client) : Prop where
  /-- The settings are left alone. -/
  settings : ∀ client, (change client).settings = client.settings
  /-- Where the cursor stands decides nothing else. -/
  cursor : ∀ client cursor, ∃ cursor',
    change { client with cursor } = { change client with cursor := cursor' }

/-- A likeness of links of which a call can tell no difference, unless it polls. -/
structure Link.Likeness (alike : Link → Link → Prop) : Prop where
  /-- The clients differ in their cursors at most. -/
  client : ∀ {left right}, alike left right →
    ∃ cursor, left.client = { right.client with cursor }
  /-- The logs are the same. -/
  topics : ∀ {left right}, alike left right → left.cluster.topics = right.cluster.topics
  /-- The offsets committed for the client's group are the same. -/
  commits : ∀ {left right}, alike left right → ∀ group,
    right.client.settings.group = some group →
      ∀ key, left.cluster.committed? group key = right.cluster.committed? group key
  /-- A call that is scripted comes out the same. -/
  takeFault : ∀ primitive, Respects alike (Client.takeFault primitive).run
  /-- Commits leave links alike. -/
  commitAll : ∀ {left right}, alike left right → ∀ group pending,
    alike { left with cluster := left.cluster.commitAll group pending }
      { right with cluster := right.cluster.commitAll group pending }
  /-- Changes of the client leave links alike. -/
  update : ∀ {left right}, alike left right → ∀ {change}, Client.IgnoresCursor change →
    alike { left with client := change left.client } { right with client := change right.client }

namespace Client

/-- Asking for concrete partitions respects every likeness. -/
theorem respects_requireConcrete {alike : Link → Link → Prop} (partitions : List TopicPartition) :
    Respects alike (requireConcrete partitions).run := by
  unfold requireConcrete
  split
  · exact .throw _
  · exact .pure _

/-- An answer without a list written back respects what its action respects. -/
theorem respects_ofAction {α : Type} {alike : Link → Link → Prop} {action : Action α}
    (reply : α → ClientReply) (respects : Respects alike action.run) :
    Respects alike (ClientAnswer.ofAction reply action) :=
  .bind respects fun _ => .pure _

/-- An answer with a list written back respects what its action respects. -/
theorem respects_ofWriteBack {alike : Link → Link → Prop} {action : WriteBack}
    (partitions : List TopicPartition) (respects : Respects alike (action partitions)) :
    Respects alike (ClientAnswer.ofWriteBack action partitions) :=
  .bind respects fun _ => .pure _

end Client

namespace Link.Likeness

open Client

variable {alike : Link → Link → Prop} {left right : Link} (like : Likeness alike)

include like

/-- What does not look at the cursor of a client is the same. -/
theorem agrees {α : Type} {view : Client → α}
    (ignores : ∀ (client : Client) (cursor : Nat), view { client with cursor } = view client)
    (same : alike left right) : view left.client = view right.client := by
  obtain ⟨cursor, client⟩ := like.client same
  rw [client]
  exact ignores right.client cursor

/-- The settings are the same. -/
theorem settings (same : alike left right) : left.client.settings = right.client.settings :=
  like.agrees (fun _ _ => rfl) same

/-- The entries are the same. -/
theorem assignment (same : alike left right) :
    left.client.assignment = right.client.assignment :=
  like.agrees (fun _ _ => rfl) same

/-- Both handles are open, or both are shut down. -/
theorem closed (same : alike left right) : left.client.closed = right.client.closed :=
  like.agrees (fun _ _ => rfl) same

/-- Where reading starts is the same. -/
theorem resolve (same : alike left right) (key : PartitionKey) (offset : Offset) :
    Client.resolve left.client.settings left.cluster key offset =
      Client.resolve right.client.settings right.cluster key offset := by
  rw [like.settings same]
  unfold Client.resolve
  rw [Cluster.log?_congr (like.topics same)]
  cases own : right.client.settings.group with
  | none => rfl
  | some group => simp only [Option.bind_some, like.commits same group own key]

/-- The entries that a client makes of a list are the same. -/
theorem assignedOfList (same : alike left right) (partitions : List TopicPartition) :
    Client.assignedOfList left partitions = Client.assignedOfList right partitions := by
  unfold Client.assignedOfList
  refine List.map_congr_left fun tp _ => ?_
  unfold assignedOf
  rw [like.resolve same]

/-- A change of the client leaves links alike, if the cursor decides nothing of it. -/
theorem respects_update {change : Client → Client} (ignores : IgnoresCursor change) :
    Respects alike (Client.update change).run :=
  fun _ _ same => ⟨rfl, like.update same ignores⟩

/-- Asking for an open handle comes out the same. -/
theorem respects_ensureOpen : Respects alike ensureOpen.run := by
  intro left right same
  rw [ensureOpen_run, ensureOpen_run, like.closed same]
  exact ⟨rfl, same⟩

/-- Asking for the group comes out the same. -/
theorem respects_requireGroup : Respects alike requireGroup.run := by
  intro left right same
  unfold requireGroup
  rw [run_get, run_get, like.settings same]
  cases right.client.settings.group <;> exact ⟨rfl, same⟩

/-- Shutting down leaves links alike. -/
theorem respects_close : Respects alike close.run := by
  refine Respects.bind (like.takeFault _) fun outcome => ?_
  refine Respects.bind (.change fun left right same => ?_) fun _ => .pure _
  exact @like.update _ _ same
    (fun client => { client with closed := true, subscription := [], assignment := [] })
    ⟨fun _ => rfl, fun _ _ => ⟨_, rfl⟩⟩

/-- Subscribing leaves links alike. -/
theorem respects_subscribe (topics : List String) : Respects alike (subscribe topics).run := by
  refine Respects.andThen (like.takeFault _) fun _ => ?_
  have rest : Respects alike (do
      ensureOpen
      Client.update fun client => { client with subscription := topics, assignment := [] } :
        Action Unit).run :=
    .andThen like.respects_ensureOpen fun _ =>
      like.respects_update ⟨fun _ => rfl, fun _ _ => ⟨_, rfl⟩⟩
  exact .either (.andThen (.throw _) fun _ => rest) rest

/-- Replacing the assignment leaves links alike. -/
theorem respects_assign (partitions : List TopicPartition) :
    Respects alike (assign partitions).run := by
  refine Respects.andThen (like.takeFault _) fun _ => ?_
  refine .andThen (respects_requireConcrete _) fun _ =>
    .andThen like.respects_ensureOpen fun _ => ?_
  refine .reading fun left right same => ?_
  rw [like.assignedOfList same]
  refine like.respects_update ?_ left right same
  exact ⟨fun _ => rfl, fun _ _ => ⟨0, rfl⟩⟩

/-- Dropping the assignment leaves links alike. -/
theorem respects_unassign : Respects alike unassign.run :=
  .andThen (like.takeFault _) fun _ =>
    like.respects_update ⟨fun _ => rfl, fun _ _ => ⟨0, rfl⟩⟩

/-- Adding to the assignment leaves links alike. -/
theorem respects_incrementalAssign (partitions : List TopicPartition) :
    Respects alike (incrementalAssign partitions).run := by
  refine Respects.andThen (like.takeFault _) fun _ => ?_
  refine .andThen (respects_requireConcrete _) fun _ =>
    .andThen like.respects_ensureOpen fun _ => ?_
  refine .reading fun left right same => ?_
  rw [like.assignedOfList same, like.assignment same]
  cases partitions.find? fun tp => (Assigned.find? right.client.assignment tp.key).isSome with
  | some tp => exact Respects.throw _ left right same
  | none =>
    refine like.respects_update ?_ left right same
    exact ⟨fun _ => rfl, fun _ _ => ⟨_, rfl⟩⟩

/-- Taking from the assignment leaves links alike. -/
theorem respects_incrementalUnassign (partitions : List TopicPartition) :
    Respects alike (incrementalUnassign partitions).run :=
  .andThen (like.takeFault _) fun _ =>
    like.respects_update ⟨fun _ => rfl, fun _ _ => ⟨0, rfl⟩⟩

/-- Reading the assignment comes out the same. -/
theorem respects_assignedPartitions : Respects alike assignedPartitions.run := by
  refine Respects.andThen (like.takeFault _) fun _ => ?_
  refine .reading fun left right same => ?_
  rw [like.assignment same]
  exact Respects.pure _ left right same

/-- Committing leaves links alike. -/
theorem respects_commit (partitions : Option (List TopicPartition)) :
    Respects alike (commit partitions).run := by
  refine Respects.andThen (like.takeFault _) fun _ => ?_
  refine .andThen like.respects_requireGroup fun group => ?_
  have taken (pending : List (PartitionKey × Int)) : Respects alike (do
      if pending.isEmpty then throw (.ofCode .noOffset)
      updateCluster fun cluster =>
        pending.foldl (fun cluster entry => cluster.commit group entry.1 entry.2) cluster :
        Action Unit).run := by
    have rest : Respects alike (updateCluster fun cluster =>
        pending.foldl (fun cluster entry => cluster.commit group entry.1 entry.2) cluster).run :=
      fun left right same => ⟨rfl, like.commitAll same group pending⟩
    exact .either (.andThen (.throw _) fun _ => rest) rest
  refine .reading fun left right same => ?_
  rw [like.assignment same]
  exact taken _ left right same

/-- Looking committed offsets up comes out the same, since a client asks for its own group. -/
theorem respects_committed (partitions : List TopicPartition) :
    Respects alike (committed partitions) := by
  let asks : Action String := do Client.takeFault .committed; requireGroup
  have asked : Respects alike asks.run :=
    .andThen (like.takeFault _) fun _ => like.respects_requireGroup
  have own {link : Link} {group : String} (found : (asks.run link).1 = .ok group) :
      (asks.run link).2.client.settings.group = some group := by
    obtain ⟨error, refused⟩ | goes := scripted_cases .committed requireGroup link
    · rw [show asks.run link = _ from refused] at found
      contradiction
    · have goes : asks.run link = requireGroup.run (scripted .committed link) := goes
      rw [goes] at found ⊢
      cases grouped : (scripted .committed link).client.settings.group with
      | none =>
        rw [requireGroup_refused grouped] at found
        contradiction
      | some name =>
        rw [requireGroup_run grouped] at found ⊢
        cases found
        exact grouped
  intro left right same
  obtain ⟨answer, after⟩ := asked left right same
  unfold committed
  rw [run_then, run_then, answer]
  cases found : (asks.run right).1 with
  | error error => exact ⟨rfl, after⟩
  | ok group =>
    refine ⟨?_, after⟩
    refine congrArg (Prod.mk (Except.ok ())) (List.map_congr_left fun tp _ => ?_)
    rw [committedOffset, committedOffset]
    rw [like.commits after group (own found)]

/-- Reading positions comes out the same. -/
theorem respects_position (partitions : List TopicPartition) :
    Respects alike (position partitions) := by
  intro left right same
  have answered (link : Link) : position partitions link =
      ((.ok (), partitions.map (positionOf link.client.assignment)), link) := rfl
  rw [answered, answered, like.assignment same]
  exact ⟨rfl, same⟩

/-- Moving a position leaves links alike. -/
theorem respects_seek (tp : TopicPartition) : Respects alike (seek tp).run := by
  refine Respects.andThen (like.takeFault _) fun _ => ?_
  refine .reading fun left right same => ?_
  dsimp only
  rw [like.resolve same, like.assignment same]
  split
  · refine like.respects_update ?_ left right same
    exact ⟨fun _ => rfl, fun _ _ => ⟨_, rfl⟩⟩
  · exact Respects.throw _ left right same

/-- Running through a list leaves links alike. -/
theorem respects_sweepAssignment
    (visit : TopicPartition → List Assigned → TopicPartition × List Assigned)
    (partitions : List TopicPartition) : Respects alike (sweepAssignment visit partitions) := by
  intro left right same
  have swept (link : Link) : sweepAssignment visit partitions link =
      ((sweep visit partitions link.client.assignment).1, { link with client := { link.client with
        assignment := (sweep visit partitions link.client.assignment).2 } }) := rfl
  rw [swept, swept, like.assignment same]
  exact ⟨rfl, @like.update _ _ same (fun client => { client with
    assignment := (sweep visit partitions right.client.assignment).2 })
    ⟨fun _ => rfl, fun _ _ => ⟨_, rfl⟩⟩⟩

/-- Storing offsets leaves links alike. -/
theorem respects_storeOffsets (partitions : List TopicPartition) :
    Respects alike (storeOffsets partitions) := by
  refine Respects.bind (like.takeFault _) fun outcome => ?_
  cases outcome with
  | error error => exact .pure _
  | ok _ =>
    refine Respects.bind (like.respects_sweepAssignment _ _) fun answers => ?_
    split <;> exact .pure _

/-- Looking offsets up by time comes out the same. -/
theorem respects_offsetsForTimes (partitions : List TopicPartition) :
    Respects alike (offsetsForTimes partitions) := by
  refine Respects.bind (like.takeFault _) fun outcome => ?_
  cases outcome with
  | error error => exact .pure _
  | ok _ =>
    intro left right same
    have answers : partitions.map (offsetForTime left.cluster) =
        partitions.map (offsetForTime right.cluster) :=
      List.map_congr_left fun tp _ => offsetForTime_congr (like.topics same) tp
    exact ⟨congrArg (Prod.mk (Except.ok ())) answers, same⟩

/-- Reading watermarks comes out the same. -/
theorem respects_watermarks (key : PartitionKey) : Respects alike (watermarks key).run := by
  refine Respects.andThen (like.takeFault _) fun _ => ?_
  refine .reading fun left right same => ?_
  unfold Cluster.watermarks Cluster.log
  rw [like.topics same]
  split
  · exact Respects.pure _ left right same
  · exact Respects.throw _ left right same

/-- Every call that does not poll comes out the same on links that are alike, and leaves them
alike. -/
theorem respects {call : ClientCall} (silent : ∀ timeout, call ≠ .poll timeout) :
    Respects alike call.perform := by
  -- Some calls do no more than tell something of the client that is not the cursor.
  have telling {α : Type} (tells : Client → α) (reply : α → ClientAnswer)
      (ignores : ∀ client cursor, tells { client with cursor } = tells client) :
      Respects alike (do pure (reply (tells (← get).client)) : StateM Link ClientAnswer) :=
    fun _ _ same => ⟨congrArg reply (like.agrees ignores same), same⟩
  cases call with
  | name =>
    exact telling Client.name (fun name => { outcome := .ok (.label name) }) fun _ _ => rfl
  | close => exact respects_ofAction _ like.respects_close
  | subscribe topics => exact respects_ofAction _ (like.respects_subscribe topics)
  | unsubscribe =>
    exact respects_ofAction _ (like.respects_update ⟨fun _ => rfl, fun _ _ => ⟨_, rfl⟩⟩)
  | subscription =>
    exact telling Client.subscription (fun topics => { outcome := .ok (.topics topics) })
      fun _ _ => rfl
  | assign partitions => exact respects_ofAction _ (like.respects_assign partitions)
  | unassign => exact respects_ofAction _ like.respects_unassign
  | incrementalAssign partitions =>
    exact respects_ofAction _ (like.respects_incrementalAssign partitions)
  | incrementalUnassign partitions =>
    exact respects_ofAction _ (like.respects_incrementalUnassign partitions)
  | assignment => exact respects_ofAction _ like.respects_assignedPartitions
  | commit partitions mode => exact respects_ofAction _ (like.respects_commit partitions)
  | committed partitions timeout =>
    exact respects_ofWriteBack _ (like.respects_committed partitions)
  | position partitions => exact respects_ofWriteBack _ (like.respects_position partitions)
  | seek tp timeout => exact respects_ofAction _ (like.respects_seek tp)
  | pause partitions =>
    exact respects_ofWriteBack _ (.bind (like.respects_sweepAssignment _ _) fun _ => .pure _)
  | resume partitions =>
    exact respects_ofWriteBack _ (.bind (like.respects_sweepAssignment _ _) fun _ => .pure _)
  | storeOffsets partitions =>
    exact respects_ofWriteBack _ (like.respects_storeOffsets partitions)
  | poll timeout => exact absurd rfl (silent timeout)
  | offsetsForTimes partitions timeout =>
    exact respects_ofWriteBack _ (like.respects_offsetsForTimes partitions)
  | cachedWatermarks key => exact respects_ofAction _ (like.respects_watermarks key)
  | queryWatermarks key timeout => exact respects_ofAction _ (like.respects_watermarks key)
  | rebalanceProtocol =>
    exact telling rebalanceProtocolName (fun name => { outcome := .ok (.label name) })
      fun _ _ => rfl

end Link.Likeness

end LogConsumer
