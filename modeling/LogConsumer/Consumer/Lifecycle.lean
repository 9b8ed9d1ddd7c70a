import LogConsumer.Client.Assignment
import LogConsumer.Client.Offsets
import LogConsumer.Consumer.Loop

/-!
# Life of a consumer

Connecting, disconnecting and subscribing. While a handle is being closed, operations of the
consumer may run from inside the close; they see the connection in its Closing state, where only
two operations reach the handle.
-/
namespace LogConsumer.Consumer

/-- Have the factory create a handle for the connection where it has none. -/
def installHandle : Action (Option Client) := do
  let site ← get
  let create : StateM Site (Except String Client) := do
    note none .create
    let site ← get
    let (answer, cluster) :=
      Client.create site.consumer.config site.consumer.boundary.factory.fresh site.cluster
    set { site with cluster }
    pure answer
  let answer ← ExceptT.lift (site.consumer.connection.install create)
  update fun consumer => { consumer with connection := answer.2 }
  match answer.1 with
  | .ok client => pure client
  | .error reason => throw (.state (.connectionRefused reason))

/-- Resume the partitions of an earlier session on a new handle. -/
def resumePrevious : Action Unit := do
  let previous := (← get).consumer.partitions.entries
  if !previous.isEmpty then
    let client ← openHandle
    let _ ← attempt (callHookedOnList .resume client .resume Client.resume previous)

/-- Create and install a handle. Nothing is done where the handle is open already. The hook of
the factory and the resumption of earlier partitions may fail without any consequence. -/
def connect : Action Unit := do
  if !(← get).consumer.connection.isConnected then
    note none .prepare
    takeHookFault .prepare
    match ← installHandle with
    | none => pure ()
    | some client =>
      trace client .name
      update fun consumer =>
        { consumer with events := { consumer.events with clientName := some client.name } }
      note client.serial .onConnected
      let _ ← attempt (takeHookFault .onConnected)
      resumePrevious
      publish (.connected client.name)

/-- Shut the handle down and let it go. -/
def releaseHandle (client : Client) : Action (Except ClientError Unit) := do
  let present := ((← get).consumer.connection.handle?).getD client
  let closed ← onHandle present Client.close.run
  update fun consumer =>
    { consumer with
      connection := consumer.connection.finishClose
      subscriptionFlag := false }
  pure closed

/-- Close the handle. A consume loop is stopped first; if it does not end in time, the handle
stays open. Then the connection always ends without a handle, and a failure of the close is
reported. `inside` is what runs from inside the close. -/
def disconnect (inside : StateM Site Unit) : Action Unit := do
  stopLoop (← get).consumer.config.loopStopTimeout false
  match (← get).consumer.connection.beginClose? with
  | none => pure ()
  | some (client, connection) =>
    update fun consumer => { consumer with connection }
    trace client .close
    inside
    match ← releaseHandle client with
    | .ok () => publish (.disconnected none)
    | .error error =>
      publish (.disconnected (some error.message))
      throw (.protocol error)

/-- Replace the subscription. There must be a topic, and every topic must have a name. -/
def subscribe (topics : List String) : Action Unit := do
  let client ← openHandle
  if topics.isEmpty then throw (.validation .noTopics)
  if topics.any isBlank then throw (.validation .emptyTopic)
  call client (.subscribe topics) (Client.subscribe topics)
  update fun consumer => { consumer with subscriptionFlag := true }
  publish (.subscribed topics)

/-- Drop the subscription. Nothing is done without one. -/
def unsubscribe : Action Unit := do
  if (← get).consumer.isSubscribed then
    let client ← openHandle
    trace client .unsubscribe
    takeHookFault .unsubscribe
    match ← onHandle client Client.unsubscribe.run with
    | .error error => throw (.protocol error)
    | .ok () =>
      update fun consumer => { consumer with subscriptionFlag := false }
      publish .unsubscribed

/-- The topics subscribed to, as the client has them. -/
def subscription : Action (List String) := do
  let client ← openHandle
  trace client .subscription
  takeHookFault .subscription
  match ← onHandle client Client.subscriptionTopics.run with
  | .error error => throw (.protocol error)
  | .ok topics => pure topics

/-- The protocol under which the group rebalances, none without an open handle. -/
def rebalanceProtocol : StateM Site RebalanceProtocol := do
  match (← get).consumer.connection.connected? with
  | none => pure .none
  | some client =>
    trace client .rebalanceProtocol
    let name :=
      (← get).consumer.boundary.protocol.getD (Client.rebalanceProtocolName client)
    pure (.ofName name)

end LogConsumer.Consumer
