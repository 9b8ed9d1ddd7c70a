import LogConsumer.Proofs.Client.Serving

/-!
# What calls leave alone

Most calls look something up or leave a mark on entries that stay what and where they are; such a
steady call keeps every view that does not look at the marks (`ClientCall.keeps_of_isSteady`).

No call on a client touches a log or decides how handles are created, and none changes what the
handle itself is. Everything of that kind is one view of a link, `Link.fixture`, which every call
keeps.
-/
namespace LogConsumer

/-- What a client cannot change. -/
structure Link.Fixture where
  /-- The partition logs of each topic. -/
  topics : Table String (List PartitionLog)
  /-- Why no handle can be created. -/
  refusal : Option String
  /-- How many handles were created. -/
  created : Nat
  /-- The name of the handle. -/
  name : String
  /-- The number of the handle. -/
  serial : Nat
  /-- What the handle is set up with. -/
  settings : Client.Settings

/-- What the client of a link cannot change. -/
def Link.fixture (link : Link) : Link.Fixture :=
  { topics := link.cluster.topics
    refusal := link.cluster.refusal
    created := link.cluster.created
    name := link.client.name
    serial := link.client.serial
    settings := link.client.settings }

/-- A handle is created open, subscribing to nothing and reading nothing. -/
theorem Client.create_eq {config : Config} {fresh : String} {cluster : Cluster} {client : Client}
    (created : (Client.create config fresh cluster).1 = .ok client) :
    client =
      { name := config.resolvedClientId fresh ++ "#consumer-" ++ toString (cluster.created + 1)
        serial := cluster.created + 1
        settings := .ofConfig config } := by
  unfold Client.create at created
  rw [run_read] at created
  cases refused : cluster.refusal with
  | some reason =>
    rw [refused] at created
    contradiction
  | none =>
    rw [refused] at created
    cases created
    rfl

namespace ClientCall

open Client

/-- An answer without a list written back keeps what its action keeps. -/
theorem keeps_ofAction {α ν : Type} {view : Link → ν} {action : Client.Action α}
    (reply : α → ClientReply) (kept : Keeps view action.run) :
    Keeps view (ClientAnswer.ofAction reply action) :=
  .bind kept fun _ => .pure _

/-- An answer with a list written back keeps what its action keeps. -/
theorem keeps_ofWriteBack {ν : Type} {view : Link → ν} {action : Client.WriteBack}
    (partitions : List TopicPartition) (kept : Keeps view (action partitions)) :
    Keeps view (ClientAnswer.ofWriteBack action partitions) :=
  .bind kept fun _ => .pure _

/-- A call polls, or it does not. -/
theorem polls_or_silent (call : ClientCall) :
    (∃ timeout, call = .poll timeout) ∨ ∀ timeout, call ≠ .poll timeout :=
  (em _).imp_right not_exists.mp

/-- The call neither says what is read, nor moves a position, nor polls. -/
def IsSteady : ClientCall → Prop
  | .close | .subscribe _ | .unsubscribe | .assign _ | .unassign | .incrementalAssign _
  | .incrementalUnassign _ | .seek _ _ | .poll _ => False
  | _ => True

/-- The call leaves the client alone. -/
def SparesClient : ClientCall → Prop
  | .pause _ | .resume _ | .storeOffsets _ => False
  | call => call.IsSteady

/-- A call that leaves the client alone keeps what looks neither at scripts nor at commits. -/
theorem keeps_of_sparesClient {ν : Type} {view : Link → ν} (scripts : IgnoresScripts view)
    (commits : ∀ (link : Link) (commits : Table CommitKey Int),
      view { link with cluster := { link.cluster with commits } } = view link)
    {call : ClientCall} (spares : call.SparesClient) : Keeps view call.perform := by
  cases call with
  | close | subscribe | unsubscribe | assign | unassign | incrementalAssign
  | incrementalUnassign | seek | poll | pause | resume | storeOffsets => exact spares.elim
  | name => exact .bind .get fun _ => .pure _
  | subscription => exact keeps_ofAction _ (.afterReading fun _ => .pure _)
  | assignment => exact keeps_ofAction _ (keeps_assignedPartitions scripts)
  | commit partitions mode =>
    refine keeps_ofAction _ (keeps_commit scripts partitions fun link pending group => ?_)
    rw [Cluster.commitAll_rest]
    exact commits link _
  | committed partitions timeout =>
    exact keeps_ofWriteBack _ (keeps_committed scripts partitions)
  | position partitions => exact keeps_ofWriteBack _ (keeps_position partitions)
  | offsetsForTimes partitions timeout =>
    exact keeps_ofWriteBack _ (keeps_offsetsForTimes scripts partitions)
  | cachedWatermarks key => exact keeps_ofAction _ (keeps_watermarks scripts key)
  | queryWatermarks key timeout => exact keeps_ofAction _ (keeps_watermarks scripts key)
  | rebalanceProtocol => exact .bind .get fun _ => .pure _

/-- A steady call keeps what looks neither at scripts and commits nor at more of the entries than
their keys and positions. -/
theorem keeps_of_isSteady {ν : Type} {view : Link → ν} (scripts : IgnoresScripts view)
    (commits : ∀ (link : Link) (commits : Table CommitKey Int),
      view { link with cluster := { link.cluster with commits } } = view link)
    (marks : ∀ (link : Link) (entries : List Assigned),
      (entries.map fun entry => (entry.key, entry.position)) =
        (link.client.assignment.map fun entry => (entry.key, entry.position)) →
      view { link with client := { link.client with assignment := entries } } = view link)
    {call : ClientCall} (steady : call.IsSteady) : Keeps view call.perform := by
  have swept {visit : TopicPartition → List Assigned → TopicPartition × List Assigned}
      (same : ∀ tp entries,
        (visit tp entries).2.map (fun entry => (entry.key, entry.position)) =
          entries.map fun entry => (entry.key, entry.position))
      (partitions : List TopicPartition) : Keeps view (sweepAssignment visit partitions) :=
    keeps_sweepAssignment visit partitions fun link => marks link _ (sweep_map same partitions _)
  cases call with
  | pause partitions =>
    exact keeps_ofWriteBack _ (.bind (swept (setPaused_map fun _ => rfl) partitions)
      fun _ => .pure _)
  | resume partitions =>
    exact keeps_ofWriteBack _ (.bind (swept (setPaused_map fun _ => rfl) partitions)
      fun _ => .pure _)
  | storeOffsets partitions =>
    exact keeps_ofWriteBack _ (keeps_storeOffsets scripts partitions fun link =>
      marks link _ (sweep_map (storeOffset_map fun _ _ _ => rfl) partitions _))
  | _ => exact keeps_of_sparesClient scripts commits steady

/-- No call changes the logs, how handles are created, or what the handle is. -/
theorem perform_keeps_fixture (call : ClientCall) : Keeps Link.fixture call.perform := by
  have scripts : IgnoresScripts Link.fixture := fun _ _ => rfl
  have whenSteady (steady : call.IsSteady) : Keeps Link.fixture call.perform :=
    keeps_of_isSteady scripts (fun _ _ => rfl) (fun _ _ _ => rfl) steady
  cases call with
  | close => exact keeps_ofAction _ (keeps_close scripts fun _ => rfl)
  | subscribe topics => exact keeps_ofAction _ (keeps_subscribe scripts topics fun _ => rfl)
  | unsubscribe => exact keeps_ofAction _ (keeps_update fun _ => rfl)
  | assign partitions =>
    exact keeps_ofAction _ (keeps_assign scripts partitions fun _ _ => rfl)
  | unassign => exact keeps_ofAction _ (keeps_unassign scripts fun _ => rfl)
  | incrementalAssign partitions =>
    exact keeps_ofAction _ (keeps_incrementalAssign scripts partitions fun _ _ => rfl)
  | incrementalUnassign partitions =>
    exact keeps_ofAction _ (keeps_incrementalUnassign scripts partitions fun _ => rfl)
  | seek tp timeout => exact keeps_ofAction _ (keeps_seek scripts tp fun _ _ _ _ => rfl)
  | poll timeout =>
    refine .bind (keeps_poll timeout (fun _ _ _ _ => rfl) fun link _ => ?_) fun _ => .pure _
    rw [serve_rest]
    simp only [Link.fixture, joined]
    split <;> rfl
  | _ => exact whenSteady trivial

/-- The call does not say to which topics the handle subscribes. -/
def SparesSubscription : ClientCall → Prop
  | .close | .subscribe _ | .unsubscribe => False
  | _ => True

/-- A call that does not say to which topics the handle subscribes neither shuts the handle down nor
changes them; a client that joins its group by a poll stays subscribed. -/
theorem keeps_standing {call : ClientCall} (spares : call.SparesSubscription) :
    Keeps (fun link => (link.client.closed, link.client.subscription)) call.perform := by
  have scripts : IgnoresScripts fun link => (link.client.closed, link.client.subscription) :=
    fun _ _ => rfl
  cases call with
  | close | subscribe | unsubscribe => exact spares.elim
  | assign partitions => exact keeps_ofAction _ (keeps_assign scripts _ fun _ _ => rfl)
  | unassign => exact keeps_ofAction _ (keeps_unassign scripts fun _ => rfl)
  | incrementalAssign partitions =>
    exact keeps_ofAction _ (keeps_incrementalAssign scripts _ fun _ _ => rfl)
  | incrementalUnassign partitions =>
    exact keeps_ofAction _ (keeps_incrementalUnassign scripts _ fun _ => rfl)
  | seek tp timeout => exact keeps_ofAction _ (keeps_seek scripts tp fun _ _ _ _ => rfl)
  | poll timeout =>
    refine .bind (keeps_poll timeout (fun _ _ _ _ => rfl) fun link _ => ?_) fun _ => .pure _
    rw [serve_rest]
    simp only [joined]
    split <;> rfl
  | _ => exact keeps_of_isSteady scripts (fun _ _ => rfl) (fun _ _ _ => rfl) trivial

/-- A call that does not say to which topics the handle subscribes leaves them alone. -/
theorem keeps_subscription {call : ClientCall} (spares : call.SparesSubscription) :
    Keeps (fun link => link.client.subscription) call.perform :=
  fun link => congrArg Prod.snd (keeps_standing spares link)

/-- A call that does not poll makes no poll. -/
theorem keeps_polls (call : ClientCall) (silent : ∀ timeout, call ≠ .poll timeout) :
    Keeps (fun link => link.cluster.polls) call.perform := by
  have scripts : IgnoresScripts fun link => link.cluster.polls := fun _ _ => rfl
  cases call with
  | poll timeout => exact absurd rfl (silent timeout)
  | close => exact keeps_ofAction _ (keeps_close scripts fun _ => rfl)
  | subscribe topics => exact keeps_ofAction _ (keeps_subscribe scripts topics fun _ => rfl)
  | unsubscribe => exact keeps_ofAction _ (keeps_update fun _ => rfl)
  | assign partitions => exact keeps_ofAction _ (keeps_assign scripts partitions fun _ _ => rfl)
  | unassign => exact keeps_ofAction _ (keeps_unassign scripts fun _ => rfl)
  | incrementalAssign partitions =>
    exact keeps_ofAction _ (keeps_incrementalAssign scripts partitions fun _ _ => rfl)
  | incrementalUnassign partitions =>
    exact keeps_ofAction _ (keeps_incrementalUnassign scripts partitions fun _ => rfl)
  | seek tp timeout => exact keeps_ofAction _ (keeps_seek scripts tp fun _ _ _ _ => rfl)
  | _ => exact keeps_of_isSteady scripts (fun _ _ => rfl) (fun _ _ _ => rfl) trivial

/-- A poll is one poll, whatever it returns. -/
theorem polls_poll (timeout : Nat) (link : Link) :
    (Client.poll timeout link).2.cluster.polls = link.cluster.polls + 1 := by
  have polls : (counted link.cluster timeout).polls = link.cluster.polls + 1 := by
    rw [counted_rest]
  obtain ⟨_, _, result⟩ | ⟨_, _, result⟩ | ⟨_, _, result⟩ := poll_cases timeout link <;>
    rw [result] <;> exact polls

end ClientCall

end LogConsumer
