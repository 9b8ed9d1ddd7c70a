import LogConsumer.Proofs.Actions
import LogConsumer.Proofs.Cluster.Logs
import LogConsumer.Session.Step

/-!
# Steps of a session

How the steps of a session run: what is done at a desk or through a client is done there and on the
cluster, or not at all where nobody has the number. A step on the cluster itself touches the logs,
the scripts and the refusal of handles only (`ClusterStep.keeps`).
-/
namespace LogConsumer.Session

/-- Acting through a client that there is answers as its action does. -/
theorem throughClient_run {α : Type} {number : Nat} {session : Session} {client : Client}
    (present : session.clients[number]? = some client) (action : StateM Link α) :
    let ran := action ⟨client, session.cluster⟩
    throughClient number action session =
      (some ran.1, { session with
        cluster := ran.2.cluster, clients := session.clients.set number ran.2.client }) := by
  unfold throughClient
  rw [run_read, present]
  rfl

/-- Acting through a client that there is not does nothing. -/
theorem throughClient_absent {α : Type} {number : Nat} {session : Session}
    (absent : session.clients[number]? = none) (action : StateM Link α) :
    throughClient number action session = (none, session) := by
  unfold throughClient
  rw [run_read, absent]
  rfl

/-- What is done at a desk that there is, is done to its consumer, its dispatcher and the
cluster. -/
theorem atDesk_run {α : Type} {number : Nat} {session : Session} {participant : Participant}
    (present : session.participants[number]? = some participant) (action : StateM Desk α) :
    let ran := action
      { site := ⟨participant.consumer, session.cluster⟩, dispatcher := participant.dispatcher }
    atDesk number action session =
      (some ran.1, { session with
        cluster := ran.2.site.cluster
        participants :=
          session.participants.set number ⟨ran.2.site.consumer, ran.2.dispatcher⟩ }) := by
  unfold atDesk
  rw [run_read, present]
  rfl

/-- Nothing is done at a desk that there is not. -/
theorem atDesk_absent {α : Type} {number : Nat} {session : Session}
    (absent : session.participants[number]? = none) (action : StateM Desk α) :
    atDesk number action session = (none, session) := by
  unfold atDesk
  rw [run_read, absent]
  rfl

/-- A run of one step and more answers the step first. -/
theorem run_cons (step : Step) (steps : List Step) (session : Session) :
    run (step :: steps) session =
      ((step.perform session).1 :: (run steps (step.perform session).2).1,
        (run steps (step.perform session).2).2) := by
  unfold run
  rw [List.mapM_cons]
  rfl

/-- A step on the cluster keeps what looks neither at the logs and the scripts nor at whether
handles are refused. -/
theorem ClusterStep.keeps {ν : Type} {view : Cluster → ν} (step : ClusterStep)
    (blind : ∀ (cluster : Cluster) (topics : Table String (List PartitionLog))
      (faults : Table Primitive (List (Option ClientError))) (refusal : Option String),
      view { cluster with topics, faults, refusal } = view cluster)
    (clock : Int) : Keeps view (step.perform clock) := by
  intro cluster
  have put (key : PartitionKey) (log : PartitionLog) :
      view (cluster.putLog key log) = view cluster := by
    rw [Cluster.putLog_rest]
    exact blind cluster _ cluster.faults cluster.refusal
  have scripted (faults : Table Primitive (List (Option ClientError))) :
      view { cluster with faults } = view cluster :=
    blind cluster cluster.topics faults cluster.refusal
  cases step with
  | createTopic topic partitions => exact blind cluster _ cluster.faults cluster.refusal
  | produce key recordKey payload timestamp =>
    change view (cluster.produce key _).2 = _
    obtain ⟨_, _, failed⟩ | ⟨log, _, produced⟩ := Cluster.produce_cases cluster key
      { key := recordKey, payload, timestamp := timestamp.getD clock }
    · rw [failed]
    · rw [produced]
      exact put key _
  | deleteRecords key before =>
    change view (cluster.deleteRecords key before).2 = _
    obtain ⟨_, _, failed⟩ | ⟨log, _, deleted⟩ := Cluster.deleteRecords_cases cluster key before
    · rw [failed]
    · rw [deleted]
      exact put key _
  | failNext primitive error => exact scripted _
  | failAfter primitive successes code => exact scripted _
  | refuse reason => exact blind cluster cluster.topics cluster.faults reason
  | _ => rfl

/-- Where a session was just opened, the cluster has topics and has created handles, and nothing
else. -/
theorem Setup.view_of_build {ν : Type} {view : Cluster → ν}
    (blind : ∀ (cluster : Cluster) (topics : Table String (List PartitionLog)) (created : Nat),
      view { cluster with topics, created } = view cluster)
    {setup : Setup} {session : Session} (built : setup.build = .ok session) :
    view session.cluster = view {} := by
  have grown (topics : List (String × Nat)) (cluster : Cluster) :
      view (topics.foldl (fun cluster topic => cluster.createTopic topic.1 topic.2) cluster) =
        view cluster := by
    induction topics generalizing cluster with
    | nil => rfl
    | cons topic topics ih => exact (ih _).trans (blind cluster _ cluster.created)
  have creates (config : Config) : Keeps view (Client.create config setup.fresh) := by
    intro cluster
    have counted := blind cluster cluster.topics (cluster.created + 1)
    unfold Client.create
    rw [run_read]
    cases refused : cluster.refusal with
    | some reason => rfl
    | none =>
      rw [refused] at counted
      exact counted
  unfold Setup.build at built
  cases made : setup.consumers.mapM setup.participant with
  | error error =>
    rw [made] at built
    cases built
  | ok participants =>
    rw [made] at built
    cases built
    exact (Keeps.mapM creates setup.clients setup.cluster).trans (grown setup.topics {})

/-- What is made of many items, where it succeeds, is made of each of them. -/
theorem exists_of_mem_mapM {α β ε : Type} {make : α → Except ε β} {items : List α}
    {results : List β} (made : items.mapM make = .ok results) {result : β}
    (member : result ∈ results) : ∃ item ∈ items, make item = .ok result := by
  induction items generalizing results with
  | nil =>
    cases made
    cases member
  | cons item items ih =>
    rw [List.mapM_cons] at made
    cases first : make item with
    | error error =>
      rw [first] at made
      cases made
    | ok value =>
      cases later : items.mapM make with
      | error error =>
        rw [first, later] at made
        cases made
      | ok values =>
        rw [first, later] at made
        cases made
        cases member with
        | head => exact ⟨item, List.mem_cons_self, first⟩
        | tail _ there =>
          obtain ⟨other, inside, same⟩ := ih later there
          exact ⟨other, List.mem_cons_of_mem _ inside, same⟩

/-- A participant that is built has the consumer that its configuration makes, with the close script
of the setup. -/
theorem Setup.eq_of_participant {setup : Setup} {config : Config} {participant : Participant}
    (built : setup.participant config = .ok participant) :
    ∃ consumer : Consumer,
      ({ config := some config, factory := some ⟨setup.fresh⟩ } : Consumer.Setup).build =
        .ok consumer ∧
      let boundary := { consumer.boundary with closeScript := setup.closeScript }
      participant = ⟨{ consumer with boundary }, .ofWorkers config.workerThreads⟩ := by
  unfold Setup.participant at built
  cases made : Consumer.Setup.build { config := some config, factory := some ⟨setup.fresh⟩ } with
  | error error =>
    rw [made] at built
    cases built
  | ok consumer =>
    rw [made] at built
    cases built
    exact ⟨consumer, rfl, rfl⟩

end LogConsumer.Session
