import LogConsumer.Proofs.Client.Refusal
import LogConsumer.Proofs.Consumer.Connecting

/-!
# Operations that fail

An operation that fails leaves everything that stands as it was: what the consumer believes to be
assigned, its connection with the whole client behind it, the logs, the committed offsets, and what
its listeners are told (`standing_of_failure`). What a failure does leave behind is a trace of the
calls, a count, and the rest of a script. Disconnecting is no such operation, for it lets the handle
go whatever the close answers; and the operations that work through a list entry by entry, or poll
after poll, keep what they have done before the failure.
-/
namespace LogConsumer

/-- What of a site no failure moves. -/
structure Site.Standing where
  /-- The partitions believed to be assigned. -/
  partitions : PartitionSet
  /-- A subscription was made on the present handle. -/
  subscriptionFlag : Bool
  /-- The connection, with the whole client. -/
  connection : Connection Client
  /-- The listeners, and the events on their way to them. -/
  events : EventDispatcher
  /-- The partition logs of each topic. -/
  topics : Table String (List PartitionLog)
  /-- The committed offsets. -/
  commits : Table CommitKey Int

/-- What of the site no failure moves. -/
def Site.standing (site : Site) : Site.Standing :=
  { partitions := site.consumer.partitions
    subscriptionFlag := site.consumer.subscriptionFlag
    connection := site.consumer.connection
    events := site.consumer.events
    topics := site.cluster.topics
    commits := site.cluster.commits }

/-- The operation does all of its work at once or none of it. A disconnect lets the handle go even
if the close fails, storing offsets stores the good ones beside the bad ones, and a bounded consume
polls again and again. -/
def Operation.IsAtomic : Operation → Prop
  | .disconnect | .storeOffsets _ | .storeOffset _ _ _ | .consumeMany _ _ _ => False
  | _ => True

variable {α β : Type} {site : Site} {client : Client}

/-- A handle that keeps what stands of its link keeps what stands of the site. -/
theorem Site.standing_linked {link : Link} (held : site.consumer.connection.handle? = some client)
    (kept : link.standing = Link.standing ⟨client, site.cluster⟩) :
    (site.linked link).standing = site.standing := by
  obtain ⟨same, topics, commits⟩ := Link.Standing.mk.inj kept
  have handle : link.client = client := same
  have connection : site.consumer.connection.update link.client = site.consumer.connection := by
    rw [handle]
    cases state : site.consumer.connection with
    | disconnected => rfl
    | connected present | closing present =>
      rw [state] at held
      cases held
      rfl
  change Site.Standing.mk _ _ (site.consumer.connection.update link.client) _ link.cluster.topics
    link.cluster.commits = _
  rw [connection, topics, commits]
  rfl

namespace Consumer.Atomic

open LogConsumer.Atomic

/-- Tracing a call moves nothing that stands. -/
theorem keeps_trace (client : Client) (call : ClientCall) :
    Keeps Site.standing (trace client call) :=
  .change fun _ => rfl

/-- Using up a failure that is scripted for a hook moves nothing that stands. -/
theorem keeps_takeHookFault (hook : Hook) : Keeps Site.standing (takeHookFault hook).run := by
  intro site
  rw [takeHookFault_run]
  rfl

/-- The gate for an open handle may go first. -/
theorem openHandle {rest : Client → Action β}
    (after : ∀ client, site.consumer.connection.handle? = some client →
      Atomic Site.standing (rest client) site) :
    Atomic Site.standing (Consumer.openHandle >>= rest) site := by
  refine bind keeps_openHandle fun client site' passing => ?_
  obtain ⟨_, opened, passed⟩ | ⟨_, refused⟩ := openHandle_cases site
  · cases passed.symm.trans passing
    exact after client (by rw [opened]; rfl)
  · cases refused.symm.trans passing

/-- The gate for any handle may go first. -/
theorem anyHandle {rest : Client → Action β}
    (after : ∀ client, site.consumer.connection.handle? = some client →
      Atomic Site.standing (rest client) site) :
    Atomic Site.standing (Consumer.anyHandle >>= rest) site := by
  refine bind keeps_anyHandle fun client site' passing => ?_
  obtain ⟨_, opened | closing, passed⟩ | ⟨_, refused⟩ := anyHandle_cases site
  · cases passed.symm.trans passing
    exact after client (by rw [opened]; rfl)
  · cases passed.symm.trans passing
    exact after client (by rw [closing]; rfl)
  · cases refused.symm.trans passing

/-- The gate for well-formed partitions may go first. -/
theorem requireWellFormed {partitions : List TopicPartition} {rest : Unit → Action β}
    (after : Atomic Site.standing (rest ()) site) :
    Atomic Site.standing (Consumer.requireWellFormed partitions >>= rest) site := by
  refine bind (keeps_requireWellFormed partitions) fun _ site' passing => ?_
  obtain ⟨_, passed⟩ | ⟨_, _, refused⟩ := requireWellFormed_cases partitions site
  · cases passed.symm.trans passing
    exact after
  · cases refused.symm.trans passing

/-- Raising a timeout may go first. -/
theorem clamped {timeout : Nat} {rest : Nat → Action β}
    (after : ∀ timeout, Atomic Site.standing (rest timeout) site) :
    Atomic Site.standing (Consumer.clamped timeout >>= rest) site :=
  after _

/-- The handle may act if it keeps what stands and so does what follows, or if what follows does not
fail any more. -/
theorem onHandle {action : StateM Link α} {rest : α → Action β}
    (held : site.consumer.connection.handle? = some client)
    (after : ∀ answer link, action ⟨client, site.cluster⟩ = (answer, link) →
      (link.standing = Link.standing ⟨client, site.cluster⟩ ∧
        Keeps Site.standing (rest answer).run) ∨ ∀ site', Succeeds (rest answer) site') :
    Atomic Site.standing (Consumer.onHandle client action >>= rest) site := by
  intro error failed
  rw [run_bind_ok (onHandle_run client action site)] at failed ⊢
  obtain ⟨standing, kept⟩ | sure := after _ _ rfl
  · exact (kept _).trans (Site.standing_linked held standing)
  · exact absurd failed (sure _ error)

/-- A call is atomic if its primitive is. -/
theorem call {request : ClientCall} {primitive : Client.Action α}
    (held : site.consumer.connection.handle? = some client)
    (atomic : Atomic Link.standing primitive ⟨client, site.cluster⟩) :
    Atomic Site.standing (Consumer.call client request primitive) site := by
  refine lift (keeps_trace client request) (onHandle held fun answer link acted => ?_)
  cases answer with
  | ok answer => exact .inr fun _ => .pure _
  | error error => exact .inl ⟨atomic.unmoved acted, .throw _⟩

/-- A call that answers within its list is atomic if its primitive keeps what stands. -/
theorem callOnList {traced : List TopicPartition → ClientCall} {primitive : Client.WriteBack}
    {partitions : List TopicPartition} (held : site.consumer.connection.handle? = some client)
    (kept : Keeps Link.standing (primitive partitions)) :
    Atomic Site.standing (Consumer.callOnList client traced primitive partitions) site := by
  refine lift (keeps_trace client _) (onHandle held fun answer link acted => .inl ⟨?_, ?_⟩)
  · have same := kept ⟨client, site.cluster⟩
    rwa [show primitive partitions ⟨client, site.cluster⟩ = _ from acted] at same
  · obtain ⟨outcome, answers⟩ := answer
    cases outcome with
    | ok _ => exact .pure _
    | error error => exact .throw _

/-- A call that the boundary may fail may go first; the handle is held afterwards as before. -/
theorem hooked {request : ClientCall} {hook : Hook} {rest : Unit → Action β}
    (held : site.consumer.connection.handle? = some client)
    (after : ∀ site' : Site, site'.consumer.connection.handle? = some client →
      Atomic Site.standing (rest ()) site') :
    Atomic Site.standing (do
      trace client request
      rest (← takeHookFault hook) : Action β) site := by
  refine lift (keeps_trace client _) (bind (keeps_takeHookFault hook) fun _ site' passed => ?_)
  refine after site' ?_
  rw [takeHookFault_run] at passed
  rw [← (Prod.mk.inj passed).2]
  exact held

/-- A call that answers within its list and that only the boundary may fail is atomic, whatever the
primitive does. -/
theorem callHookedOnList {hook : Hook} {traced : List TopicPartition → ClientCall}
    {primitive : Client.WriteBack} {partitions : List TopicPartition}
    (held : site.consumer.connection.handle? = some client)
    (sure : ∀ link, (primitive partitions link).1.1 = .ok ()) :
    Atomic Site.standing (Consumer.callHookedOnList hook client traced primitive partitions)
      site := by
  refine hooked held fun site' held => onHandle held fun answer link acted => .inr fun _ => ?_
  obtain ⟨outcome, answers⟩ := answer
  have done : outcome = .ok () := by
    rw [← sure ⟨client, site'.cluster⟩, acted]
  subst done
  exact .pure _

/-- Connecting is atomic: it fails before a handle is installed, or not at all. -/
theorem connect : Atomic Site.standing Consumer.connect site := by
  intro error failed
  cases state : site.consumer.connection.state with
  | connected =>
    rw [connect_connected state]
  | closing =>
    rw [connect_closing state]
    rfl
  | disconnected =>
    obtain ⟨_, _, result⟩ | ⟨_, _, _, result⟩ | ⟨_, _, done, _⟩ := connect_disconnected state
    · rw [result]
      rfl
    · rw [result]
      rfl
    · rw [done] at failed
      contradiction

/-- Subscribing is atomic: the flag is raised only after the client has subscribed. -/
theorem subscribe (topics : List String) :
    Atomic Site.standing (Consumer.subscribe topics) site := by
  refine openHandle fun client held => either (throw _) (either (throw _) ?_)
  exact settled (call held (Client.atomic_subscribe topics)) fun _ _ => .lift (.certain _)

/-- Dropping the subscription is atomic: only the boundary may fail it, before the client drops
anything. -/
theorem unsubscribe : Atomic Site.standing Consumer.unsubscribe site := by
  refine get (either (openHandle fun client held => hooked held fun site' held => ?_) (pure _))
  refine onHandle held fun answer link acted => .inr fun _ => ?_
  have done : answer = .ok () := (congrArg Prod.fst acted).symm
  subst done
  exact .lift (.certain _)

/-- Reading the subscription is atomic. -/
theorem subscription : Atomic Site.standing Consumer.subscription site := by
  refine openHandle fun client held => hooked held fun site' held => ?_
  refine onHandle held fun answer link acted => .inr fun _ => ?_
  have done : answer = .ok client.subscription := (congrArg Prod.fst acted).symm
  subst done
  exact .pure _

/-- Taking the client's assignment over is atomic. -/
theorem refreshAssignments : Atomic Site.standing Consumer.refreshAssignments site := by
  refine openHandle fun client held => settled (call held ?_) fun _ _ => .certain _
  exact .of_keeps (Client.keeps_assignedPartitions Client.standing_ignoresScripts)

/-- Committing is atomic; a failure is counted. -/
theorem commit (partitions : Option (List TopicPartition)) (mode : CommitMode) :
    Atomic Site.standing (Consumer.commit partitions mode) site := by
  refine openHandle fun client held => requireWellFormed (lift (keeps_trace client _) ?_)
  refine onHandle held fun answer link acted => ?_
  cases answer with
  | ok _ => exact .inr fun _ => .lift (.pure _)
  | error error => exact .inl ⟨(Client.atomic_commit partitions).unmoved acted, fun _ => rfl⟩

/-- Consuming is atomic: a poll that fails does so before the client joins its group and before
anything is read. -/
theorem consume (timeout : Nat) : Atomic Site.standing (Consumer.consume timeout) site := by
  unfold Consumer.consume Consumer.beginPoll
  simp only [bind_assoc]
  refine openHandle fun client held => get (lift (keeps_trace client _) ?_)
  refine onHandle held fun polled link acted => ?_
  cases outcome : Outcome.ofMessage polled.message with
  | ok message => exact .inr fun _ => .lift (.pure _)
  | error error =>
    refine .inl ⟨?_, fun _ => rfl⟩
    have polling : Client.poll _ ⟨client, site.cluster⟩ = (polled, link) := acted
    have kept := Client.standing_poll (by rw [polling]; exact outcome)
    rwa [polling] at kept

/-- From every site, an operation that does its work at once is atomic. -/
theorem perform {operation : Operation} (atOnce : operation.IsAtomic)
    (inside : StateM Site Unit) (site : Site) :
    Atomic Site.standing (operation.perform inside) site := by
  have answer {α : Type} {action : Consumer.Action α} (reply : α → Reply)
      (atomic : Atomic Site.standing action site) :
      Atomic Site.standing (do pure (reply (← action)) : Consumer.Action Reply) site :=
    .settled atomic fun _ _ => .pure _
  cases operation with
  | disconnect | storeOffsets | storeOffset | consumeMany => exact atOnce.elim
  | connect => exact answer _ connect
  | subscribe topics => exact answer _ (subscribe topics)
  | unsubscribe => exact answer _ unsubscribe
  | subscription => exact answer _ subscription
  | assign partitions =>
    refine answer _ (openHandle fun client held => requireWellFormed ?_)
    exact .settled (call held (Client.atomic_assign partitions)) fun _ _ => .lift (.certain _)
  | unassign =>
    refine answer _ (anyHandle fun client held => ?_)
    exact .settled (call held Client.atomic_unassign) fun _ _ => .lift (.certain _)
  | incrementalAssign partitions =>
    refine answer _ (openHandle fun client held => requireWellFormed ?_)
    refine .settled (call held (Client.atomic_incrementalAssign partitions)) fun _ _ => ?_
    exact .lift (.lift (.certain _))
  | incrementalUnassign partitions =>
    refine answer _ (anyHandle fun client held => requireWellFormed ?_)
    refine .settled (call held (Client.atomic_incrementalUnassign partitions)) fun _ _ => ?_
    exact .lift (.lift (.certain _))
  | refreshAssignments => exact answer _ refreshAssignments
  | assignments => exact answer _ (.settled refreshAssignments fun _ _ => .lift (.pure _))
  | commit partitions mode => exact answer _ (commit partitions mode)
  | consume timeout => exact answer _ (consume timeout)
  | seek tp timeout =>
    refine answer _ (openHandle fun client held => requireWellFormed (clamped fun timeout => ?_))
    exact call held (Client.atomic_seek tp)
  | committed partitions timeout =>
    refine answer _ (openHandle fun client held => requireWellFormed (clamped fun timeout => ?_))
    exact callOnList held (Client.keeps_committed Client.standing_ignoresScripts partitions)
  | position partitions | pause partitions | resume partitions =>
    refine answer _ (openHandle fun client held => requireWellFormed ?_)
    exact callHookedOnList held fun _ => rfl
  | offsetsForTimes partitions timeout =>
    refine answer _ (openHandle fun client held => requireWellFormed (clamped fun timeout => ?_))
    exact callOnList held (Client.keeps_offsetsForTimes Client.standing_ignoresScripts partitions)
  | cachedWatermarks key =>
    refine answer _ (openHandle fun client held => call held ?_)
    exact .of_keeps (Client.keeps_watermarks Client.standing_ignoresScripts key)
  | queryWatermarks key timeout =>
    refine answer _ (openHandle fun client held => clamped fun timeout => call held ?_)
    exact .of_keeps (Client.keeps_watermarks Client.standing_ignoresScripts key)
  | rebalanceProtocol | activate | deactivate => exact .of_succeeds (.lift (.pure _))
  | hasAssigned | name | isClosing | isConnected | metrics => exact .get (.pure _)

end Consumer.Atomic

/-- If an operation that does its work at once fails, from whatever site and for whatever reason,
then the set of partitions, the subscription flag, the connection with the whole client, the events,
the logs and the committed offsets are exactly as before. -/
theorem standing_of_failure {operation : Operation} (atOnce : operation.IsAtomic)
    (inside : StateM Site Unit) {site site' : Site} {error : ConsumerError}
    (failed : (operation.perform inside).run site = (.error error, site')) :
    site'.standing = site.standing :=
  (Consumer.Atomic.perform atOnce inside site).unmoved failed

/-- A first poll that fails does not join the group of the topic subscribed to, although there is a
record to read. -/
theorem standing_after_failed_poll :
    let record : Record := { key := none, payload := [1], timestamp := 0 }
    let cluster := (Cluster.produce (Cluster.createTopic {} "log" 1) ("log", 0) record).2
    let site := course
      { consumer := { config := {} }, cluster := cluster.failNext .poll (.ofCode .transport) }
      [(.operate .connect, .script), (.operate (.subscribe ["log"]), .script)]
    let polled := (Operation.consume 0).run.run site
    polled.1 = .error (.ofCode .transport) ∧ polled.2.standing = site.standing := by
  intro record cluster site polled
  have atOnce : (Operation.consume 0).IsAtomic := trivial
  have failed : polled.1 = .error (.ofCode .transport) := by decide +kernel
  exact ⟨failed, standing_of_failure atOnce Consumer.runCloseScript (Prod.ext failed rfl)⟩

end LogConsumer
