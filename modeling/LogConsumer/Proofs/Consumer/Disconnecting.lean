import LogConsumer.Proofs.Consumer.Aside
import LogConsumer.Proofs.Consumer.Refusals
import LogConsumer.Proofs.Consumer.Subscribing

/-!
# Disconnecting

A disconnect without a running consume loop always completes (`disconnect_completes`), whatever the
close of the handle answers and whatever runs from inside it. While the handle is being closed
nothing leaves that state (`Site.Shutting`), and of the operations that run then only the accepted
ones that drop what is assigned change the set of partitions.
-/
namespace LogConsumer

open Consumer Consumer.Does

variable {site site' : Site}

/-- The set after an operation was accepted that drops what is assigned. No other operation is
accepted while a handle is being closed and changes the set. -/
def PartitionSet.dropped (set : PartitionSet) : Operation → PartitionSet
  | .unassign => set.clear
  | .incrementalUnassign partitions => (set.removeMatching partitions).1
  | _ => set

/-- The operation, if it succeeds at the site. -/
def Operation.accepted (site : Site) (operation : Operation) : List Operation :=
  if ((operation.perform (Pure.pure ())).run site).1.toBool then [operation] else []

/-- The operation that happens, if it succeeds. -/
def Moment.accepted (site : Site) : Moment → List Operation
  | .operate operation => operation.accepted site
  | _ => []

/-- The operations that succeed, in order, of those that run from inside a close. -/
def Inside.accepted (site : Site) : Inside → List Operation
  | .script => collected (fun site operation => (operation.runInsideClose site).2)
      Operation.accepted site site.consumer.boundary.closeScript
  | .course moments => collected (fun site moment => (moment.perform (Pure.pure ()) site).2)
      Moment.accepted site moments

/-- A connection offers a handle only if that is open. -/
theorem Connection.exists_of_connected? {α : Type} {connection : Connection α}
    (present : connection.connected?.isSome) : ∃ handle, connection = .connected handle := by
  cases connection with
  | connected handle => exact ⟨handle, rfl⟩
  | disconnected | closing handle => cases present

/-- The handle is being closed, and there is no consume loop. -/
structure Site.Shutting (site : Site) : Prop where
  /-- The handle is being closed. -/
  closing : site.consumer.connection.state = .closing
  /-- There is no consume loop. -/
  loopless : site.consumer.loop = none

namespace Site.Shutting

/-- What is being closed has a handle. -/
theorem exists_handle (shutting : site.Shutting) :
    ∃ client, site.consumer.connection = .closing client := by
  have closing := shutting.closing
  cases state : site.consumer.connection with
  | closing client => exact ⟨client, rfl⟩
  | connected client | disconnected =>
    rw [state] at closing
    contradiction

/-- What is being closed is not open. -/
theorem not_connected (shutting : site.Shutting) :
    site.consumer.connection.state ≠ .connected := by
  rw [shutting.closing]
  decide

end Site.Shutting

/-- A step inside a close goes on closing, and leaves the set of partitions as what it accepted
leaves it. -/
def Site.ShutsWith (site : Site) (accepted : List Operation) (site' : Site) : Prop :=
  site'.Shutting ∧
    site'.consumer.partitions = accepted.foldl PartitionSet.dropped site.consumer.partitions

/-- What changes neither the connection, the loop nor the set of partitions goes on closing and
drops nothing. -/
theorem Site.Shutting.idle (shutting : site.Shutting)
    (connection : site'.consumer.connection = site.consumer.connection)
    (loop : site'.consumer.loop = site.consumer.loop)
    (partitions : site'.consumer.partitions = site.consumer.partitions) :
    site.ShutsWith [] site' :=
  ⟨⟨(congrArg Connection.state connection).trans shutting.closing,
    loop.trans shutting.loopless⟩, partitions⟩

/-- An operation that drops nothing leaves the set of partitions, be it accepted or not. -/
theorem Operation.shutsWith_accepted {operation : Operation}
    (drops : ∀ set : PartitionSet, set.dropped operation = set)
    (idle : site.ShutsWith [] site') : site.ShutsWith (operation.accepted site) site' := by
  refine ⟨idle.1, idle.2.trans ?_⟩
  unfold accepted
  split
  · exact (drops _).symm
  · rfl

/-- An operation that drops what is assigned leaves the set as it is if it is refused, and drops
from it if it is accepted. -/
theorem Operation.shutsWith_dropped {operation : Operation} {outcome : Except ConsumerError Reply}
    (ran : (operation.perform (Pure.pure ())).run site = (outcome, site'))
    (shutting : site'.Shutting)
    (partitions : site'.consumer.partitions =
      if outcome.toBool then site.consumer.partitions.dropped operation
      else site.consumer.partitions) : site.ShutsWith (operation.accepted site) site' := by
  refine ⟨shutting, partitions.trans ?_⟩
  rw [accepted, ran]
  cases outcome <;> rfl

/-- Where there is no consume loop, there is nothing to stop. -/
theorem stopLoop_idle (loopless : site.consumer.loop = none) (wait : Nat) (reportsPanic : Bool) :
    (Consumer.stopLoop wait reportsPanic).run site = (.ok (), site) := by
  unfold Consumer.stopLoop
  rw [run_get, loopless]
  rfl

/-- Where there is no consume loop, none makes a step. -/
theorem advanceLoop_idle (loopless : site.consumer.loop = none) (workerFree : Bool) :
    (Consumer.advanceLoop workerFree site).2 = site := by
  unfold Consumer.advanceLoop
  rw [run_read, loopless]
  rfl

/-- Without an open handle no consume loop is started. -/
theorem consumeLoop_idle (absent : site.consumer.connection.state ≠ .connected)
    (timeout sleepDelay : Option Nat) :
    (Consumer.consumeLoop timeout sleepDelay).run site = (.error .notConnected, site) := by
  have unconnected : site.consumer.connection.isConnected = false := by
    simp [Connection.isConnected, absent]
  unfold Consumer.consumeLoop
  rw [run_get]
  dsimp only
  rw [unconnected]
  rfl

/-- Disconnecting does nothing where no handle is open and there is no consume loop. -/
theorem disconnect_idle (absent : site.consumer.connection.state ≠ .connected)
    (loopless : site.consumer.loop = none) (inside : StateM Site Unit) :
    (Consumer.disconnect inside).run site = (.ok (), site) := by
  have stopped := stopLoop_idle loopless site.consumer.config.loopStopTimeout false
  rw [disconnect_eq, run_get, run_bind_ok stopped]
  unfold shutDown
  rw [run_get]
  cases state : site.consumer.connection with
  | connected client =>
    rw [state] at absent
    exact absurd rfl absent
  | disconnected => rfl
  | closing client => rfl

/-- A call that reaches a handle that is being closed goes on closing it. -/
theorem Site.Shutting.called (shutting : site.Shutting) (client : Client) (request : ClientCall)
    (link : Link) : ((site.traced client request).linked link).Shutting := by
  obtain ⟨present, closing⟩ := shutting.exists_handle
  refine ⟨?_, shutting.loopless⟩
  change (site.consumer.connection.update link.client).state = _
  rw [closing]
  rfl

/-- Dropping the assignment inside a close goes on closing. -/
theorem unassign_shuts (shutting : site.Shutting) :
    site.ShutsWith (Operation.unassign.accepted site)
      ((Operation.unassign.perform (Pure.pure ())).run site).2 := by
  obtain ⟨client, _, passed⟩ | ⟨vacant, _⟩ := anyHandle_cases site
  · let link := (Client.unassign.run ⟨client, site.cluster⟩).2
    have called : ((site.traced client .unassign).linked link).Shutting :=
      shutting.called client .unassign link
    have whole : (Operation.unassign.perform (Pure.pure ())).run site = _ :=
      run_map Consumer.unassign (fun _ => Reply.done) site
    unfold Consumer.unassign at whole
    rw [run_bind_ok passed] at whole
    obtain ⟨error, _, refused⟩ | ⟨answer, _, went⟩ := call_cases client .unassign Client.unassign
      (fun _ => do
        update fun consumer => { consumer with partitions := consumer.partitions.clear }
        publish .unassigned) site
    · rw [refused] at whole
      rw [whole]
      exact Operation.shutsWith_dropped whole called rfl
    · rw [went] at whole
      rw [whole]
      exact Operation.shutsWith_dropped whole ⟨called.closing, called.loopless⟩ rfl
  · have closing := shutting.closing
    rw [vacant] at closing
    contradiction

/-- Taking from the assignment inside a close goes on closing. -/
theorem incrementalUnassign_shuts (partitions : List TopicPartition) (shutting : site.Shutting) :
    site.ShutsWith ((Operation.incrementalUnassign partitions).accepted site)
      (((Operation.incrementalUnassign partitions).perform (Pure.pure ())).run site).2 := by
  obtain ⟨client, _, passed⟩ | ⟨vacant, _⟩ := anyHandle_cases site
  · let link := ((Client.incrementalUnassign partitions).run ⟨client, site.cluster⟩).2
    have called : ((site.traced client (.incrementalUnassign partitions)).linked link).Shutting :=
      shutting.called client (.incrementalUnassign partitions) link
    have whole : ((Operation.incrementalUnassign partitions).perform (Pure.pure ())).run site = _ :=
      run_map (Consumer.incrementalUnassign partitions) (fun _ => Reply.done) site
    unfold Consumer.incrementalUnassign at whole
    rw [run_bind_ok passed] at whole
    obtain ⟨_, formed⟩ | ⟨fault, _, malformed⟩ := requireWellFormed_cases partitions site
    · have ran := call_run client (.incrementalUnassign partitions)
        (Client.incrementalUnassign partitions) site
      rw [run_bind_ok formed] at whole
      cases outcome : ((Client.incrementalUnassign partitions).run ⟨client, site.cluster⟩).1 with
      | error error =>
        rw [outcome] at ran
        rw [run_bind_error ran] at whole
        rw [whole]
        exact Operation.shutsWith_dropped whole called rfl
      | ok _ =>
        rw [outcome] at ran
        rw [run_bind_ok ran] at whole
        rw [whole]
        exact Operation.shutsWith_dropped whole ⟨called.closing, called.loopless⟩ rfl
    · rw [run_bind_error malformed] at whole
      rw [whole]
      exact Operation.shutsWith_dropped whole shutting rfl
  · have closing := shutting.closing
    rw [vacant] at closing
    contradiction

/-- Without an open handle there is no subscription to drop. -/
theorem unsubscribe_idle (absent : site.consumer.connection.state ≠ .connected) :
    Consumer.unsubscribe.run site = (.ok (), site) :=
  unsubscribe_unsubscribed (isSubscribed_eq_false absent)

/-- Asking for the rebalance protocol does nothing while the handle is being closed. -/
theorem rebalanceProtocol_idle (shutting : site.Shutting) :
    (Consumer.rebalanceProtocol site).2 = site := by
  obtain ⟨client, closing⟩ := shutting.exists_handle
  obtain ⟨⟨config, connection, partitions, subscriptionFlag, events, metrics, loop, deliveries,
    boundary⟩, cluster⟩ := site
  cases closing
  rfl

/-- Every operation that runs inside a close goes on closing. -/
theorem operate_shuts (operation : Operation) (shutting : site.Shutting) :
    site.ShutsWith (operation.accepted site)
      ((operation.perform (Pure.pure ())).run site).2 := by
  have absent := shutting.not_connected
  have unchanged {final : Site} (same : final = site) : site.ShutsWith [] final :=
    shutting.idle (by rw [same]) (by rw [same]) (by rw [same])
  have refused (refused : operation.RefusedIn site.consumer.connection.state) :
      site.ShutsWith [] ((operation.perform (Pure.pure ())).run site).2 :=
    unchanged (congrArg Prod.snd (operation.run_of_refused _ refused))
  cases operation with
  | unassign => exact unassign_shuts shutting
  | incrementalUnassign partitions => exact incrementalUnassign_shuts partitions shutting
  | connect =>
    refine Operation.shutsWith_accepted (fun _ => rfl) ?_
    have whole : (Operation.connect.perform (Pure.pure ())).run site = _ :=
      run_map Consumer.connect (fun _ => Reply.done) site
    rw [whole, connect_closing shutting.closing]
    exact shutting.idle rfl rfl rfl
  | disconnect =>
    refine Operation.shutsWith_accepted (fun _ => rfl) (unchanged ?_)
    have done := disconnect_idle absent shutting.loopless (Pure.pure ())
    exact congrArg Prod.snd (run_bind_ok done)
  | unsubscribe =>
    refine Operation.shutsWith_accepted (fun _ => rfl) (unchanged ?_)
    exact congrArg Prod.snd (run_bind_ok (unsubscribe_idle absent))
  | consumeMany count timeout firstOnly =>
    refine Operation.shutsWith_accepted (fun _ => rfl) (unchanged ?_)
    have whole : ((Operation.consumeMany count timeout firstOnly).perform (Pure.pure ())).run site =
        _ := run_map (Consumer.consumeMany count timeout firstOnly) Reply.batch site
    rw [whole]
    exact Consumer.consumeMany_idle absent count timeout firstOnly
  | rebalanceProtocol =>
    refine Operation.shutsWith_accepted (fun _ => rfl) (unchanged ?_)
    exact rebalanceProtocol_idle shutting
  | hasAssigned | name | isClosing | isConnected | activate | deactivate | metrics =>
    exact Operation.shutsWith_accepted (fun _ => rfl) (shutting.idle rfl rfl rfl)
  | subscribe | subscription | assign | incrementalAssign | refreshAssignments | assignments
  | commit | consume | seek | committed | position | pause | resume | storeOffsets | storeOffset
  | offsetsForTimes | cachedWatermarks | queryWatermarks =>
    exact Operation.shutsWith_accepted (fun _ => rfl) (refused absent)

/-- Whatever happens inside a close goes on closing. -/
theorem moment_shuts (moment : Moment) (shutting : site.Shutting) :
    site.ShutsWith (moment.accepted site) (moment.perform (Pure.pure ()) site).2 := by
  have unchanged {final : Site} (same : final = site) : site.ShutsWith [] final :=
    shutting.idle (by rw [same]) (by rw [same]) (by rw [same])
  cases moment with
  | operate operation => exact operate_shuts operation shutting
  | startLoop timeout sleepDelay =>
    exact unchanged (congrArg Prod.snd (consumeLoop_idle shutting.not_connected timeout sleepDelay))
  | advanceLoop workerFree => exact unchanged (advanceLoop_idle shutting.loopless workerFree)
  | stopLoop wait reportsPanic =>
    have still := stopLoop_idle shutting.loopless wait reportsPanic
    exact unchanged (congrArg Prod.snd still)
  | surroundings boundary others created => exact shutting.idle rfl rfl rfl

/-- What goes on closing step by step goes on closing as a whole, and the set of partitions is as
what was accepted of it leaves it. -/
theorem forM_shuts {item : Type} {action : item → StateM Site Unit}
    {accepted : Site → item → List Operation}
    (each : ∀ (site : Site) (one : item), site.Shutting →
      site.ShutsWith (accepted site one) (action one site).2)
    (items : List item) (shutting : site.Shutting) :
    site.ShutsWith (collected (fun site one => (action one site).2) accepted site items)
      (items.forM action site).2 := by
  rw [run_forM]
  refine related_collected accepted Site.Shutting
    (fun site accepted site' => site'.consumer.partitions =
      accepted.foldl PartitionSet.dropped site.consumer.partitions)
    (fun _ => rfl) (fun before after => ?_) each shutting items
  rw [List.foldl_append, ← before]
  exact after

/-- What runs from inside a close goes on closing. -/
theorem inside_shuts (inside : Inside) (shutting : site.Shutting) :
    site.ShutsWith (inside.accepted site) (inside.perform site).2 := by
  cases inside with
  | script =>
    refine forM_shuts (fun site operation shutting => ?_) _ shutting
    obtain ⟨still, partitions⟩ := operate_shuts operation shutting
    exact ⟨⟨still.closing, still.loopless⟩, partitions⟩
  | course moments => exact forM_shuts (fun site => moment_shuts) moments shutting

/-- Stopping a consume loop that is not running only takes it away. -/
theorem stopLoop_settled (settled : site.consumer.isLoopRunning = false) (wait : Nat) :
    (Consumer.stopLoop wait false).run site =
      (.ok (), { site with consumer := { site.consumer with loop := none } }) := by
  obtain ⟨⟨config, connection, partitions, subscriptionFlag, events, metrics, loop, deliveries,
    boundary⟩, cluster⟩ := site
  cases loop with
  | none => rfl
  | some loop =>
    obtain ⟨settings, cancelled, phase⟩ := loop
    cases phase with
    | exited panicked =>
      -- Both signals are passed to a loop that is over, and deliver nothing.
      have delivered : deliveries ++ [] ++ [] = deliveries := by simp
      cases panicked <;> exact congrArg (fun deliveries => (Except.ok (), Site.mk (Consumer.mk
        config connection partitions subscriptionFlag events metrics none deliveries boundary)
        cluster)) delivered
    | checking | waiting | polling | backingOff => cases settled

/-- The site when the close of an open handle begins that no consume loop uses. -/
def Site.begun (site : Site) (client : Client) : Site :=
  Site.shutting { site with consumer := { site.consumer with loop := none } } client

/-- The site after the handle was let go. -/
def Site.released (site : Site) (cluster : Cluster) (failure : Option ClientError) : Site :=
  { consumer := { site.consumer with
      connection := .disconnected
      subscriptionFlag := false
      events := site.consumer.events.publish (.disconnected (failure.map ClientError.message)) }
    cluster }

/-- Letting the handle go answers what its close answers, and ends without a handle in any case. -/
theorem letGo_run {client present : Client}
    (closing : site.consumer.connection = .closing present) :
    let closed := Client.close.run ⟨present, site.cluster⟩
    (letGo client).run site = (closed.1.mapError .protocol,
      site.released closed.2.cluster (match closed.1 with
        | .ok () => none
        | .error error => some error)) := by
  intro closed
  have released := releaseHandle_run client site
  rw [closing] at released
  unfold letGo
  rw [run_bind_ok released]
  change ExceptT.run (match closed.1 with
    | .ok () => _
    | .error error => _ : Action Unit) _ = _
  cases closed.1 <;> rfl

/-- How a disconnect completes: the site before it, the site when everything has run that runs from
inside the close and what of it was accepted, and the site and the answer at the end. -/
structure Completes (site closing final : Site) (accepted : List Operation)
    (answer : Except ConsumerError Unit) : Prop where
  /-- It answers what the handle answers to its close. -/
  answers : ∃ client, closing.consumer.connection = .closing client ∧
    answer = (Client.close.run ⟨client, closing.cluster⟩).1.mapError .protocol
  /-- The connection is without a handle. -/
  disconnected : final.consumer.connection = .disconnected
  /-- There is no subscription until a subscribe succeeds, whatever else happens. -/
  unsubscribed : ∀ later, Throughout Occurrence.next Occurrence.LeavesUnsubscribed final later →
    (course final later).consumer.isSubscribed = false
  /-- What was accepted inside is dropped from the set of partitions, in order, and nothing else. -/
  partitions : final.consumer.partitions =
    accepted.foldl PartitionSet.dropped site.consumer.partitions
  /-- Another disconnect succeeds and changes nothing. -/
  again : ∀ inside, (Consumer.disconnect inside).run final = (.ok (), final)

/-- A disconnect of an open handle that no consume loop uses completes, whatever the close answers
and whatever runs from inside it. -/
theorem disconnect_completes {client : Client}
    (opened : site.consumer.connection = .connected client)
    (settled : site.consumer.isLoopRunning = false) (inside : Inside) :
    let begun := site.begun client
    let ran := (Consumer.disconnect inside.perform).run site
    Completes site (inside.perform begun).2 ran.2 (inside.accepted begun) ran.1 := by
  intro begun ran
  have begins : begun.Shutting := ⟨rfl, rfl⟩
  obtain ⟨closing, partitions⟩ := inside_shuts inside begins
  obtain ⟨present, handle⟩ := closing.exists_handle
  have shuts : ran = (letGo client).run (inside.perform begun).2 := by
    unfold ran
    rw [disconnect_eq, run_get, run_bind_ok (stopLoop_settled settled _)]
    unfold shutDown
    rw [run_get]
    dsimp only
    rw [opened]
    rfl
  rw [letGo_run handle] at shuts
  rw [shuts]
  constructor
  · exact ⟨present, handle, rfl⟩
  · rfl
  · intro later unsubscribed
    have unflagged := course_unraised unsubscribed rfl
    rw [Consumer.isSubscribed, unflagged, Bool.and_false]
  · exact partitions
  · intro inside'
    apply disconnect_idle
    · intro opened
      cases opened
    · exact closing.loopless

/-- The close of a handle fails after operations have run from inside it: a connect and a disconnect
that find it being closed, two that drop partitions, and an assignment that is refused. -/
theorem disconnect_completes_failing :
    let tp (number : Int) : TopicPartition := { topic := "log", partition := number }
    let boundary : Boundary := { closeScript := [.connect, .incrementalUnassign [tp 1, tp 1],
      .disconnect, .assign [tp 7], .incrementalUnassign [tp 0]] }
    let fresh : Site := { consumer := { config := {}, boundary }
                          cluster := Cluster.failNext {} .close (.ofCode .fail) }
    let site := course fresh
      [(.operate .connect, .script), (.operate (.assign [tp 0, tp 1, tp 2]), .script)]
    let ran := (Consumer.disconnect Inside.script.perform).run site
    ran.1 = .error (.protocol (.ofCode .fail)) ∧
      ran.2.consumer.connection.state = .disconnected ∧
      ran.2.consumer.partitions.entries = [tp 2] ∧
      (Consumer.disconnect (pure ())).run ran.2 = (.ok (), ran.2) := by
  intro tp boundary fresh site ran
  have settled : site.consumer.isLoopRunning = false := by decide +kernel
  have present : site.consumer.connection.connected?.isSome := by decide +kernel
  obtain ⟨client, opened⟩ := Connection.exists_of_connected? present
  have completes := disconnect_completes opened settled .script
  have failed : ran.1 = .error (.protocol (.ofCode .fail)) := by decide +kernel
  have remaining : ran.2.consumer.partitions.entries = [tp 2] := by decide +kernel
  have disconnected : ran.2.consumer.connection.state = .disconnected := by
    rw [completes.disconnected]
    rfl
  exact ⟨failed, disconnected, remaining, completes.again _⟩

end LogConsumer
