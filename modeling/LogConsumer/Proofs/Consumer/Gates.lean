import LogConsumer.Consumer.Lifecycle
import LogConsumer.Proofs.Actions

/-!
# Gates and calls of a consumer

How the steps come out from which the operations of a consumer are made: the gates, which let an
operation pass to the handle or end it and never change the site, and the calls on the handle,
which leave a trace and hand the handle the cluster (`call_run`).
-/
namespace LogConsumer

namespace Site

/-- The site after a call on the handle was traced. -/
def traced (site : Site) (client : Client) (call : ClientCall) : Site :=
  { site with
    consumer := { site.consumer with
      boundary := site.consumer.boundary.note ⟨client.serial, .onHandle call⟩ } }

/-- The site after the handle has acted on the cluster. -/
def linked (site : Site) (link : Link) : Site :=
  { consumer := { site.consumer with
      connection := site.consumer.connection.update link.client }
    cluster := link.cluster }

end Site

namespace Consumer

/-- The gate for an open handle lets it pass, or refuses. -/
theorem openHandle_cases (site : Site) :
    (∃ client, site.consumer.connection = .connected client ∧
      openHandle.run site = (.ok client, site)) ∨
    ((∀ client, site.consumer.connection ≠ .connected client) ∧
      openHandle.run site = (.error .notConnected, site)) := by
  unfold openHandle
  rw [run_get]
  cases site.consumer.connection with
  | connected client => exact .inl ⟨client, rfl, rfl⟩
  | disconnected | closing => exact .inr ⟨fun _ => by simp, rfl⟩

/-- The gate for any handle lets it pass, open or being closed, or refuses. -/
theorem anyHandle_cases (site : Site) :
    (∃ client, (site.consumer.connection = .connected client ∨
        site.consumer.connection = .closing client) ∧ anyHandle.run site = (.ok client, site)) ∨
    (site.consumer.connection = .disconnected ∧
      anyHandle.run site = (.error .notConnected, site)) := by
  unfold anyHandle
  rw [run_get]
  cases site.consumer.connection with
  | connected client => exact .inl ⟨client, .inl rfl, rfl⟩
  | disconnected => exact .inr ⟨rfl, rfl⟩
  | closing client => exact .inl ⟨client, .inr rfl, rfl⟩

/-- The gate for an open handle changes nothing. -/
theorem keeps_openHandle {ν : Type} {view : Site → ν} : Keeps view openHandle.run := by
  intro site
  obtain ⟨_, _, passed⟩ | ⟨_, refused⟩ := openHandle_cases site
  · rw [passed]
  · rw [refused]

/-- The gate for any handle changes nothing. -/
theorem keeps_anyHandle {ν : Type} {view : Site → ν} : Keeps view anyHandle.run := by
  intro site
  obtain ⟨_, _, passed⟩ | ⟨_, refused⟩ := anyHandle_cases site
  · rw [passed]
  · rw [refused]

/-- The gate for an open handle lets an open handle pass. -/
theorem openHandle_run {site : Site} {client : Client}
    (opened : site.consumer.connection = .connected client) :
    openHandle.run site = (.ok client, site) := by
  obtain ⟨other, state, passed⟩ | ⟨none, _⟩ := openHandle_cases site
  · cases opened.symm.trans state
    exact passed
  · exact absurd opened (none client)

/-- The gate for any handle lets an open handle pass. -/
theorem anyHandle_run {site : Site} {client : Client}
    (opened : site.consumer.connection = .connected client) :
    anyHandle.run site = (.ok client, site) := by
  obtain ⟨other, state | state, passed⟩ | ⟨vacant, _⟩ := anyHandle_cases site
  · cases opened.symm.trans state
    exact passed
  · cases opened.symm.trans state
  · cases opened.symm.trans vacant

/-- The gate for well-formed partitions lets the list pass, or refuses at its first fault. -/
theorem requireWellFormed_cases (partitions : List TopicPartition) (site : Site) :
    ((∀ tp ∈ partitions, inputFault? tp = none) ∧
      (requireWellFormed partitions).run site = (.ok (), site)) ∨
    ∃ fault, partitions.findSome? inputFault? = some fault ∧
      (requireWellFormed partitions).run site = (.error (.validation fault), site) := by
  unfold requireWellFormed
  cases found : partitions.findSome? inputFault? with
  | none => exact .inl ⟨List.findSome?_eq_none_iff.mp found, rfl⟩
  | some fault => exact .inr ⟨fault, rfl, rfl⟩

/-- The gate for well-formed partitions changes nothing. -/
theorem keeps_requireWellFormed {ν : Type} {view : Site → ν} (partitions : List TopicPartition) :
    Keeps view (requireWellFormed partitions).run := by
  intro site
  obtain ⟨_, passed⟩ | ⟨_, _, refused⟩ := requireWellFormed_cases partitions site
  · rw [passed]
  · rw [refused]

/-- A failure that is scripted for a hook is used up; it is the only thing that changes. -/
theorem takeHookFault_run (hook : Hook) (site : Site) :
    (takeHookFault hook).run site =
      ((match (site.consumer.boundary.takeFault hook).1 with
        | some error => .error (.protocol error)
        | none => .ok ()),
        { site with consumer := { site.consumer with
          boundary := (site.consumer.boundary.takeFault hook).2 } }) := by
  have unfolded : (takeHookFault hook).run site =
      (match (site.consumer.boundary.takeFault hook).1 with
        | some error => throw (.protocol error)
        | none => pure () : Action Unit).run
        { site with consumer := { site.consumer with
          boundary := (site.consumer.boundary.takeFault hook).2 } } := rfl
  rw [unfolded]
  cases (site.consumer.boundary.takeFault hook).1 <;> rfl

/-- Using up a scripted failure changes nothing of the boundary but the scripts. -/
theorem takeFault_boundary (boundary : Boundary) (hook : Hook) :
    (boundary.takeFault hook).2 =
      { boundary with faults := (boundary.takeFault hook).2.faults } := by
  unfold Boundary.takeFault
  split <;> rfl

/-- The handle acts on the cluster and is kept as it is afterwards. -/
theorem onHandle_run {α : Type} (client : Client) (action : StateM Link α) (site : Site) :
    (onHandle client action).run site =
      (.ok (action ⟨client, site.cluster⟩).1, site.linked (action ⟨client, site.cluster⟩).2) :=
  rfl

/-- A call leaves its trace, and hands the handle the cluster; a failure of the handle is
reported. -/
theorem call_run {α : Type} (client : Client) (traced : ClientCall) (primitive : Client.Action α)
    (site : Site) :
    (call client traced primitive).run site =
      ((primitive.run ⟨client, site.cluster⟩).1.mapError .protocol,
        (site.traced client traced).linked (primitive.run ⟨client, site.cluster⟩).2) := by
  have told : (trace client traced site).2 = site.traced client traced := rfl
  have still : (site.traced client traced).cluster = site.cluster := rfl
  unfold call
  rw [run_lift, told, run_bind_ok (onHandle_run client primitive.run _), still]
  cases (primitive.run ⟨client, site.cluster⟩).1 <;> rfl

/-- An operation that goes on from a call ends where the handle refuses the call, or goes on with
what the handle answers. -/
theorem call_cases {α β : Type} (client : Client) (traced : ClientCall)
    (primitive : Client.Action α) (rest : α → Action β) (site : Site) :
    (∃ error, (primitive.run ⟨client, site.cluster⟩).1 = .error error ∧
      (call client traced primitive >>= rest).run site = (.error (.protocol error),
        (site.traced client traced).linked (primitive.run ⟨client, site.cluster⟩).2)) ∨
    ∃ answer, (primitive.run ⟨client, site.cluster⟩).1 = .ok answer ∧
      (call client traced primitive >>= rest).run site = (rest answer).run
        ((site.traced client traced).linked (primitive.run ⟨client, site.cluster⟩).2) := by
  have called := call_run client traced primitive site
  cases outcome : (primitive.run ⟨client, site.cluster⟩).1 with
  | error error =>
    rw [outcome] at called
    exact .inl ⟨error, rfl, run_bind_error called⟩
  | ok answer =>
    rw [outcome] at called
    exact .inr ⟨answer, rfl, run_bind_ok called⟩

/-- A call that answers within its list leaves its trace, and hands the handle the cluster. -/
theorem callOnList_run (client : Client) (traced : List TopicPartition → ClientCall)
    (primitive : Client.WriteBack) (partitions : List TopicPartition) (site : Site) :
    ((callOnList client traced primitive partitions).run site).2 =
      (site.traced client (traced partitions)).linked
        (primitive partitions ⟨client, site.cluster⟩).2 := by
  have told : (trace client (traced partitions) site).2 = site.traced client (traced partitions) :=
    rfl
  have still : (site.traced client (traced partitions)).cluster = site.cluster := rfl
  unfold callOnList
  rw [run_lift, told, run_bind_ok (onHandle_run client (primitive partitions) _), still]
  obtain ⟨outcome, answers⟩ := (primitive partitions ⟨client, site.cluster⟩).1
  cases outcome <;> rfl

/-- The site after the factory was asked for a handle. -/
def asked (site : Site) : Site :=
  { site with consumer := { site.consumer with
    boundary := site.consumer.boundary.note ⟨none, .create⟩ } }

/-- The handle that a cluster creates next for a site. -/
def nextClient (site : Site) : Client :=
  { name := site.consumer.config.resolvedClientId site.consumer.boundary.factory.fresh ++
      "#consumer-" ++ toString (site.cluster.created + 1)
    serial := site.cluster.created + 1
    settings := .ofConfig site.consumer.config }

/-- The site after the factory was asked for a handle and one was created and installed. -/
def installed (site : Site) : Site :=
  { consumer := { (asked site).consumer with connection := .connected (nextClient site) }
    cluster := { site.cluster with created := site.cluster.created + 1 } }

/-- A connection that has a handle keeps it, and the factory is not asked; else the factory is
asked, and it is refused or the handle created next is installed. -/
theorem installHandle_cases (site : Site) :
    (site.consumer.connection ≠ .disconnected ∧
      installHandle.run site = (.ok none, site)) ∨
    (site.consumer.connection = .disconnected ∧ ∃ reason, site.cluster.refusal = some reason ∧
      installHandle.run site = (.error (.state (.connectionRefused reason)), asked site)) ∨
    (site.consumer.connection = .disconnected ∧ site.cluster.refusal = none ∧
      installHandle.run site = (.ok (some (nextClient site)), installed site)) := by
  obtain ⟨⟨config, connection, partitions, subscriptionFlag, events, metrics, loop, deliveries,
    boundary⟩, ⟨topics, commits, faults, refusal, created, polls, lastPollTimeout⟩⟩ := site
  cases connection with
  | connected client => exact .inl ⟨nofun, rfl⟩
  | closing client => exact .inl ⟨nofun, rfl⟩
  | disconnected =>
    cases refusal with
    | some reason => exact .inr (.inl ⟨rfl, reason, rfl, rfl⟩)
    | none => exact .inr (.inr ⟨rfl, rfl, rfl⟩)

/-- Letting the handle go shuts it down, and leaves the connection without a handle whatever the
shutting down answers. -/
theorem releaseHandle_run (client : Client) (site : Site) :
    let present := site.consumer.connection.handle?.getD client
    let closed := Client.close.run ⟨present, site.cluster⟩
    (releaseHandle client).run site =
      (.ok closed.1,
        { consumer := { site.consumer with connection := .disconnected, subscriptionFlag := false }
          cluster := closed.2.cluster }) :=
  rfl

end Consumer

end LogConsumer
