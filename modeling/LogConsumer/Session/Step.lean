import LogConsumer.Session

/-!
# Steps of a session

What can be done in a session, one step at a time, and what each step answers. A step of a
consumer also tells how the consumer stands after it, and what was run from inside a close.
-/
namespace LogConsumer.Session

/-- A step of a consumer. -/
inductive ConsumerStep where
  /-- Run an operation. -/
  | operate (operation : Operation)
  /-- Read the calls traced since the last reading. -/
  | takeCalls
  /-- Fail a coming call at the boundary. -/
  | failHook (hook : Hook) (error : ClientError)
  /-- Name a rebalance protocol in place of the client, or no longer. -/
  | overrideProtocol (name : Option String)
  /-- Dispatch a task and wait for its result. -/
  | dispatch (task : Task)
  /-- Occupy a worker. -/
  | holdWorker
  /-- Free the workers that are occupied. -/
  | releaseWorkers
  /-- Count the workers at work. -/
  | countWorkers
  /-- Start the consume loop. -/
  | startLoop (timeout sleepDelay : Option Nat)
  /-- Stop the consume loop. -/
  | stopLoop
  /-- Ask whether the consume loop is still to end. -/
  | isLoopRunning
  /-- Let the loop deliver a number of results, and read them. -/
  | awaitDeliveries (wanted : Nat)
  /-- Read what the loop has delivered. -/
  | readDeliveries
  /-- Let the loop go on until the cluster has seen a number of polls. -/
  | awaitPolls (wanted : Nat)
  /-- Let the loop end. -/
  | awaitLoopEnd
  deriving Repr, Inhabited

/-- A step on the cluster itself. -/
inductive ClusterStep where
  /-- Create a topic. -/
  | createTopic (topic : String) (partitions : Nat)
  /-- Add a record; without a time it gets the time of the session. -/
  | produce (key : PartitionKey) (recordKey : Option Bytes) (payload : Bytes)
      (timestamp : Option Int)
  /-- Drop the records below an offset. -/
  | deleteRecords (key : PartitionKey) (before : Int)
  /-- Fail a coming call of a primitive. -/
  | failNext (primitive : Primitive) (error : ClientError)
  /-- Fail the call of a primitive after a number of others. -/
  | failAfter (primitive : Primitive) (successes : Nat) (code : ErrorCode)
  /-- Refuse to create handles, or no longer. -/
  | refuse (reason : Option String)
  /-- Read the offset that a group has committed. -/
  | committedOffset (group : String) (key : PartitionKey)
  /-- Count the polls. -/
  | pollCount
  /-- Read the timeout of the last poll. -/
  | lastPollTimeout
  /-- Count the handles created. -/
  | clientsCreated
  deriving DecidableEq, Repr, Inhabited

/-- A step of a session. -/
inductive Step where
  /-- A step of a consumer. -/
  | consumer (number : Nat) (step : ConsumerStep)
  /-- Listen to a consumer. -/
  | listen (number : Nat)
  /-- Read what a listener of the session has received, and how a consumer stands. -/
  | receive (number : Nat) (receiver : Nat)
  /-- A step on the cluster. -/
  | cluster (step : ClusterStep)
  /-- A call on a client that is used without a consumer. -/
  | client (number : Nat) (call : ClientCall)
  deriving Repr, Inhabited

/-- What a step of a consumer answers when it succeeds. -/
inductive ConsumerAnswer where
  /-- The answer of an operation or a task. -/
  | reply (value : Reply)
  /-- Calls on the factory and the handle. -/
  | calls (value : List Call)
  /-- A number. -/
  | count (value : Nat)
  /-- What a listener received. -/
  | events (value : List (Reception Event))
  /-- What the consume loop delivered. -/
  | deliveries (value : List Outcome)
  deriving Repr, Inhabited

/-- What a step answers. -/
inductive Answer where
  /-- A consumer's answer, and the reports from inside a close. -/
  | consumer (report : Report ConsumerAnswer) (inside : List (Report Reply))
  /-- The cluster's answer: a number, if there is one to tell. -/
  | cluster (outcome : Except ClientError (Option Int))
  /-- A client's answer. -/
  | client (answer : ClientAnswer)
  /-- Nobody has this number. -/
  | nobody
  deriving Repr, Inhabited

/-- Act on the site of a desk. -/
def onSite {α : Type} (action : StateM Site α) : StateM Desk α := do
  let desk ← get
  let (answer, site) := action desk.site
  set { desk with site }
  pure answer

/-- Change the boundary of the consumer at a desk. -/
def changeBoundary (change : Boundary → Boundary) : StateM Desk Unit :=
  onSite (Consumer.update fun consumer => { consumer with boundary := change consumer.boundary })

/-- The name under which a task is dispatched. -/
def taskTag : String := "task"

/-- Dispatch a task and wait for its result. -/
def dispatchTask (task : Task) : StateM Desk (Except ConsumerError Reply) := do
  let desk ← get
  let (completions, dispatcher, site) :=
    (desk.dispatcher.submit taskTag task.action).drain desk.site
  set { desk with site, dispatcher }
  match completions.reverse.find? fun completion => completion.tag = taskTag with
  | some completion => pure completion.result
  | none => pure (.error (.internal (.other "every worker is occupied")))

/-- Change the dispatcher of a desk and make its moves. -/
def changeDispatcher (change : Dispatcher Site Reply → Dispatcher Site Reply) :
    StateM Desk Unit := do
  let desk ← get
  let (dispatcher, site) := (change desk.dispatcher).settle desk.site
  set { desk with site, dispatcher }

/-- The consume loop polls at the moment. -/
def loopIsPolling (consumer : Consumer) : Bool :=
  match consumer.loop.map ConsumeLoop.phase with
  | some (.polling _ _) => true
  | _ => false

/-- A worker is free for the next poll of the consume loop. -/
def workerIsFree (dispatcher : Dispatcher Site Reply) : Bool :=
  dispatcher.inFlight < dispatcher.workers && dispatcher.waiting.isEmpty

/-- Perform a step of a consumer at its desk. -/
def ConsumerStep.perform : ConsumerStep → StateM Desk (Except ConsumerError ConsumerAnswer)
  | .operate operation => do
    pure ((← onSite operation.run.run).map .reply)
  | .takeCalls => do
    let calls := (← get).site.consumer.boundary.calls.map TracedCall.call
    changeBoundary fun boundary => { boundary with calls := [] }
    pure (.ok (.calls (calls.filter Call.isListed)))
  | .failHook hook error => do
    changeBoundary fun boundary => boundary.failNext hook error
    pure (.ok (.reply .done))
  | .overrideProtocol name => do
    changeBoundary fun boundary => { boundary with protocol := name }
    pure (.ok (.reply .done))
  | .dispatch task => do
    pure ((← dispatchTask task).map .reply)
  | .holdWorker => do
    changeDispatcher fun dispatcher => dispatcher.hold "held" (pure (.returned (.ok .done)))
    pure (.ok (.reply .done))
  | .releaseWorkers => do
    changeDispatcher Dispatcher.release
    pure (.ok (.reply .done))
  | .countWorkers => do
    let desk ← get
    let polling := if loopIsPolling desk.site.consumer then 1 else 0
    pure (.ok (.count (desk.dispatcher.inFlight + polling)))
  | .startLoop timeout sleepDelay => do
    let outcome ← onSite (Consumer.consumeLoop timeout sleepDelay).run
    pure (outcome.map fun _ => .reply .done)
  | .stopLoop => do
    let wait := (← get).site.consumer.config.loopStopTimeout
    let outcome ← onSite (Consumer.stopLoop wait true).run
    pure (outcome.map fun _ => .reply .done)
  | .isLoopRunning => do
    pure (.ok (.reply (.flag (← get).site.consumer.isLoopRunning)))
  | .awaitDeliveries wanted => do
    onSite (Consumer.awaitDeliveries (workerIsFree (← get).dispatcher) wanted)
    pure (.ok (.deliveries ((← get).site.consumer.deliveries.take wanted)))
  | .readDeliveries => do
    pure (.ok (.deliveries (← get).site.consumer.deliveries))
  | .awaitPolls wanted => do
    onSite (Consumer.awaitPolls (workerIsFree (← get).dispatcher) wanted)
    pure (.ok (.reply .done))
  | .awaitLoopEnd => do
    onSite (Consumer.awaitLoopEnd (workerIsFree (← get).dispatcher))
    pure (.ok (.reply (.flag (← get).site.consumer.isLoopRunning)))

/-- Perform a step on the cluster. -/
def ClusterStep.perform (clock : Int) :
    ClusterStep → StateM Cluster (Except ClientError (Option Int))
  | .createTopic topic partitions => do
    modify fun cluster => cluster.createTopic topic partitions
    pure (.ok none)
  | .produce key recordKey payload timestamp => do
    let record : Record := { key := recordKey, payload, timestamp := timestamp.getD clock }
    let (outcome, cluster) := (← get).produce key record
    set cluster
    pure (outcome.map fun offset => some offset)
  | .deleteRecords key before => do
    let (outcome, cluster) := (← get).deleteRecords key before
    set cluster
    pure (outcome.map fun _ => none)
  | .failNext primitive error => do
    modify fun cluster => cluster.failNext primitive error
    pure (.ok none)
  | .failAfter primitive successes code => do
    modify fun cluster => cluster.failAfter primitive successes (.ofCode code)
    pure (.ok none)
  | .refuse reason => do
    modify fun cluster => cluster.refuse reason
    pure (.ok none)
  | .committedOffset group key => do
    pure (.ok ((← get).committed? group key))
  | .pollCount => do
    pure (.ok (some (← get).polls))
  | .lastPollTimeout => do
    pure (.ok ((← get).lastPollTimeout.map fun timeout => (timeout : Int)))
  | .clientsCreated => do
    pure (.ok (some (← get).created))

/-- Act at the desk of a consumer, and report how the consumer stands and what was run from
inside a close. -/
def reporting (action : StateM Desk (Except ConsumerError ConsumerAnswer)) :
    StateM Desk Answer := do
  changeBoundary fun boundary => { boundary with reports := [] }
  let outcome ← action
  let consumer := (← get).site.consumer
  pure (.consumer (consumer.report outcome) consumer.boundary.reports)

/-- Listen to a consumer from now on; the answer is the number of the listener. -/
def listen (number : Nat) : StateM Session Nat := do
  let receiver := (← get).receivers.length
  let enrol : StateM Desk Nat := onSite do
    let consumer := (← get).consumer
    let (listener, events) := consumer.events.listen
    Consumer.update fun consumer => { consumer with events }
    pure listener
  match ← atDesk number enrol with
  | none => pure receiver
  | some listener =>
    modify fun session =>
      { session with receivers := session.receivers ++ [⟨number, listener⟩] }
    pure receiver

/-- Read everything that a listener of the session has received. -/
def receive (receiver : Nat) : StateM Session (List (Reception Event)) := do
  match (← get).receivers[receiver]? with
  | none => pure []
  | some place =>
    let read : StateM Desk (List (Reception Event)) := onSite do
      let consumer := (← get).consumer
      let (items, events) := consumer.events.receive place.listener none
      Consumer.update fun consumer => { consumer with events }
      pure items
    pure ((← atDesk place.participant read).getD [])

/-- Perform a step. -/
def Step.perform : Step → StateM Session Answer
  | .consumer number step => do
    pure ((← atDesk number (reporting step.perform)).getD .nobody)
  | .listen number => do
    let receiver ← Session.listen number
    pure ((← atDesk number (reporting (pure (.ok (.count receiver))))).getD .nobody)
  | .receive number receiver => do
    let items ← Session.receive receiver
    pure ((← atDesk number (reporting (pure (.ok (.events items))))).getD .nobody)
  | .cluster step => do
    let session ← get
    let answer := step.perform session.clock session.cluster
    set { session with cluster := answer.2 }
    pure (.cluster answer.1)
  | .client number call => do
    pure (((← throughClient number call.perform).map .client).getD .nobody)

/-- Perform steps in order. -/
def run (steps : List Step) : StateM Session (List Answer) :=
  steps.mapM Step.perform

end LogConsumer.Session
