import LogConsumer.Task

/-!
# Sessions

A session is one cluster with everybody who uses it: consumers, each with a dispatcher for its
tasks, and clients that are used without a consumer. They share nothing but the cluster.
-/
namespace LogConsumer

/-- A consumer with the dispatcher of its tasks. -/
structure Participant where
  /-- The consumer. -/
  consumer : Consumer
  /-- The dispatcher of its tasks. -/
  dispatcher : Dispatcher Site Reply
  deriving Inhabited

/-- A participant with the cluster. -/
structure Desk where
  /-- The consumer and the cluster. -/
  site : Site
  /-- The dispatcher of the consumer's tasks. -/
  dispatcher : Dispatcher Site Reply
  deriving Inhabited

/-- A listener of a session. -/
structure Receiver where
  /-- The number of the participant it listens to. -/
  participant : Nat
  /-- Its number among the listeners of that participant. -/
  listener : Nat
  deriving DecidableEq, Repr, Inhabited

/-- A cluster with its users. -/
structure Session where
  /-- The cluster. -/
  cluster : Cluster := {}
  /-- The consumers. -/
  participants : List Participant := []
  /-- The clients that are used without a consumer. -/
  clients : List Client := []
  /-- The listeners, in the order of their arrival. -/
  receivers : List Receiver := []
  /-- The time of records that are given none, in milliseconds. -/
  clock : Int := 0
  deriving Inhabited

namespace Session

/-- What to open a session with. -/
structure Setup where
  /-- Topics to create, with the numbers of their partitions. -/
  topics : List (String × Nat) := []
  /-- The configurations of the consumers. -/
  consumers : List Config := []
  /-- The configurations of the clients that are used without a consumer. -/
  clients : List Config := []
  /-- What every consumer runs from inside a close. -/
  closeScript : List Operation := []
  /-- The random part of client names that are made up. -/
  fresh : String := ""
  /-- The time of records that are given none, in milliseconds. -/
  clock : Int := 0
  deriving Repr, Inhabited

/-- Build a participant that is not connected. -/
def Setup.participant (setup : Setup) (config : Config) : Except ConsumerError Participant := do
  let consumer ← ({ config := some config, factory := some ⟨setup.fresh⟩ } : Consumer.Setup).build
  let boundary := { consumer.boundary with closeScript := setup.closeScript }
  pure { consumer := { consumer with boundary }, dispatcher := .ofWorkers config.workerThreads }

/-- The cluster with the topics of the setup. -/
def Setup.cluster (setup : Setup) : Cluster :=
  setup.topics.foldl (fun cluster topic => cluster.createTopic topic.1 topic.2) {}

/-- Open a session. The consumers are built first, and the first fault of a configuration is
reported; then the clients are created in order. -/
def Setup.build (setup : Setup) : Except ConsumerError Session := do
  let participants ← setup.consumers.mapM setup.participant
  let create (config : Config) : StateM Cluster (Except String Client) :=
    Client.create config setup.fresh
  let (clients, cluster) := (setup.clients.mapM create).run setup.cluster
  pure { cluster, participants, clients := clients.filterMap Except.toOption, clock := setup.clock }

/-- Act at the desk of a participant; nothing where there is none. -/
def atDesk {α : Type} (number : Nat) (action : StateM Desk α) : StateM Session (Option α) := do
  let session ← get
  match session.participants[number]? with
  | none => pure none
  | some participant =>
    let (answer, desk) :=
      action
        { site := ⟨participant.consumer, session.cluster⟩, dispatcher := participant.dispatcher }
    set { session with
      cluster := desk.site.cluster
      participants :=
        session.participants.set number ⟨desk.site.consumer, desk.dispatcher⟩ }
    pure (some answer)

/-- Act through a client that is used without a consumer; nothing where there is none. -/
def throughClient {α : Type} (number : Nat) (action : StateM Link α) :
    StateM Session (Option α) := do
  let session ← get
  match session.clients[number]? with
  | none => pure none
  | some client =>
    let (answer, link) := action ⟨client, session.cluster⟩
    set { session with cluster := link.cluster, clients := session.clients.set number link.client }
    pure (some answer)

end Session

end LogConsumer
