import LogConsumer.ConsumeLoop
import LogConsumer.Consumer.Boundary
import LogConsumer.Event.Dispatcher
import LogConsumer.PartitionSet

/-!
# Consumers

A consumer holds a connection to at most one handle, the set of partitions it believes to be
assigned, a subscription flag, its counters and its listeners. Its operations are actions on a
`Site`, the consumer together with the cluster its handles read. Every operation passes a gate
first: `openHandle` asks for an open handle, `anyHandle` is content with one that is being
closed.
-/
namespace LogConsumer

/-- A consumer. -/
structure Consumer where
  /-- What the consumer is set up with. -/
  config : Config
  /-- The connection to the handle. -/
  connection : Connection Client := .disconnected
  /-- The partitions believed to be assigned. -/
  partitions : PartitionSet := {}
  /-- A subscription was made on the present handle. -/
  subscriptionFlag : Bool := false
  /-- The listeners. -/
  events : EventDispatcher := {}
  /-- The counters. -/
  metrics : Metrics := {}
  /-- The consume loop, until it is stopped or replaced. -/
  loop : Option ConsumeLoop := none
  /-- What the consume loop delivered since it was started, oldest first. -/
  deliveries : List Outcome := []
  /-- What lies between the consumer and its client. -/
  boundary : Boundary := {}
  deriving Repr, Inhabited

/-- A consumer with the cluster its handles read. -/
structure Site where
  /-- The consumer. -/
  consumer : Consumer
  /-- The cluster. -/
  cluster : Cluster
  deriving Repr, Inhabited

namespace Consumer

/-- The consumer has a subscription on an open handle. -/
def isSubscribed (consumer : Consumer) : Bool :=
  consumer.connection.isConnected && consumer.subscriptionFlag

/-- A consume loop has not ended yet. -/
def isLoopRunning (consumer : Consumer) : Bool :=
  consumer.loop.any fun loop => !loop.isOver

/-- What a consumer does on its site, and may fail to do. The site after a failure is part of
the answer. -/
abbrev Action (α : Type) := ExceptT ConsumerError (StateM Site) α

/-- What to build a consumer from. -/
structure Setup where
  /-- The configuration; the default one where it is missing. -/
  config : Option Config := none
  /-- What creates handles. -/
  factory : Option Factory := none
  deriving Repr, Inhabited

/-- Build a consumer that is not connected. A missing factory is reported before the first fault
of the configuration. -/
def Setup.build (setup : Setup) : Except ConsumerError Consumer :=
  match setup.factory with
  | none => .error (.config .missingFactory)
  | some factory =>
    let config := setup.config.getD {}
    match config.validate with
    | .error cause => .error (.config cause)
    | .ok () => .ok { config, boundary := { factory } }

/-- Change the consumer. -/
def update (change : Consumer → Consumer) : StateM Site Unit :=
  modify fun site => { site with consumer := change site.consumer }

/-- Publish an event. -/
def publish (event : Event) : StateM Site Unit :=
  update fun consumer => { consumer with events := consumer.events.publish event }

/-- Keep a trace of a call. -/
def note (handle : Option Nat) (call : Call) : StateM Site Unit :=
  update fun consumer => { consumer with boundary := consumer.boundary.note ⟨handle, call⟩ }

/-- Keep a trace of a call on a handle. -/
def trace (client : Client) (call : ClientCall) : StateM Site Unit :=
  note client.serial (.onHandle call)

/-- Fail if the boundary scripts a failure for this call. -/
def takeHookFault (hook : Hook) : Action Unit := do
  let site ← get
  let (failure, boundary) := site.consumer.boundary.takeFault hook
  set { site with consumer := { site.consumer with boundary } }
  match failure with
  | some error => throw (.protocol error)
  | none => pure ()

/-- The handle, if it is open. -/
def openHandle : Action Client := do
  match (← get).consumer.connection.connected? with
  | some client => pure client
  | none => throw .notConnected

/-- The handle, be it open or being closed. -/
def anyHandle : Action Client := do
  match (← get).consumer.connection.handle? with
  | some client => pure client
  | none => throw .notConnected

/-- Perform an action and hand its failure, if it fails, back as a value. -/
def attempt {α : Type} (action : Action α) : Action (Except ConsumerError α) :=
  ExceptT.mk do
    let outcome ← action.run
    pure (.ok outcome)

/-- Run an action of the handle on the cluster, and keep the handle as it is afterwards. -/
def onHandle {α : Type} (client : Client) (action : StateM Link α) : Action α := do
  let site ← get
  let (answer, link) := action ⟨client, site.cluster⟩
  set ({ consumer := { site.consumer with
           connection := site.consumer.connection.update link.client }
         cluster := link.cluster } : Site)
  pure answer

/-- Call a primitive of the handle. -/
def call {α : Type} (client : Client) (traced : ClientCall) (primitive : Client.Action α) :
    Action α := do
  trace client traced
  match ← onHandle client primitive.run with
  | .ok answer => pure answer
  | .error error => throw (.protocol error)

/-- Call a primitive that answers within the list it is given. -/
def callOnList (client : Client) (traced : List TopicPartition → ClientCall)
    (primitive : Client.WriteBack) (partitions : List TopicPartition) :
    Action (List TopicPartition) := do
  trace client (traced partitions)
  match ← onHandle client (primitive partitions) with
  | (.ok (), answers) => pure answers
  | (.error error, _) => throw (.protocol error)

/-- Call a primitive that the boundary may fail and that answers within its list. -/
def callHookedOnList (hook : Hook) (client : Client) (traced : List TopicPartition → ClientCall)
    (primitive : Client.WriteBack) (partitions : List TopicPartition) :
    Action (List TopicPartition) := do
  trace client (traced partitions)
  takeHookFault hook
  match ← onHandle client (primitive partitions) with
  | (.ok (), answers) => pure answers
  | (.error error, _) => throw (.protocol error)

/-- The fault of one partition given by a caller, if there is one. -/
def inputFault? (tp : TopicPartition) : Option InputError :=
  if tp.topic.isEmpty then some .emptyTopic
  else if tp.partition < unassignedPartition then
    some (.partitionOutOfRange tp.topic tp.partition)
  else
    match tp.offset with
    | .absolute offset => if offset < 0 then some (.negativeOffset offset tp) else none
    | _ => none

/-- Fail at the first malformed partition. -/
def requireWellFormed (partitions : List TopicPartition) : Action Unit :=
  match partitions.findSome? inputFault? with
  | some fault => throw (.validation fault)
  | none => pure ()

end Consumer

end LogConsumer
