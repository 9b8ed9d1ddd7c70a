import LogConsumer.Proofs.Consumer.Operations

/-!
# What operations look past

A view that looks neither at the handle, the boundary and the cluster nor at the name that the
listeners know the handle by (`Site.Aloof`) is kept by every operation that only asks the handle or
moves it along (`keeps_quiet`), and by consuming and committing as well if it looks past the
counters (`keeps_counted`). Connecting keeps it up to the event that a handle came (`keeps_salute`),
and an operation that changes what the consumer believes keeps it up to the change, which comes last
and comes with its event (`perform_settles`).
-/
namespace LogConsumer

/-- The view looks neither at the handle, the boundary and the cluster nor at the name that the
listeners know the handle by. -/
structure Site.Aloof {ν : Type} (view : Site → ν) : Prop where
  /-- Neither the handle, the boundary nor the cluster is looked at. -/
  apart : ∀ (site : Site) (connection : Connection Client) (boundary : Boundary)
    (cluster : Cluster),
    view { consumer := { site.consumer with connection, boundary }, cluster } = view site
  /-- The name of the handle is not looked at. -/
  nameless : ∀ (site : Site) (clientName : Option String),
    view { site with consumer := { site.consumer with
      events := { site.consumer.events with clientName } } } = view site

/-- The operation polls or commits. -/
def Operation.IsCounted : Operation → Prop
  | .consume _ | .consumeMany _ _ _ | .commit _ _ => True
  | _ => False

/-- The operation only asks the consumer or its handle, or moves the handle along: it neither opens
nor closes it, changes nothing that the consumer believes, and has nothing to tell. -/
def Operation.IsQuiet : Operation → Prop
  | .connect | .disconnect | .subscribe _ | .unsubscribe | .assign _ | .unassign
  | .incrementalAssign _ | .incrementalUnassign _ | .refreshAssignments | .assignments
  | .activate | .deactivate => False
  | _ => True

/-- The operation changes what the consumer believes, and tells the listeners. -/
def Operation.IsSettling : Operation → Prop
  | .subscribe _ | .unsubscribe | .assign _ | .unassign | .incrementalAssign _
  | .incrementalUnassign _ => True
  | _ => False

/-- What an operation changes of the consumer, and tells of it, once the handle has accepted it. -/
def Operation.settle (consumer : Consumer) : Operation → Consumer
  | .subscribe topics =>
    { consumer with
      subscriptionFlag := true
      events := consumer.events.publish (.subscribed topics) }
  | .unsubscribe =>
    { consumer with
      subscriptionFlag := false
      events := consumer.events.publish .unsubscribed }
  | .assign partitions =>
    { consumer with
      partitions := consumer.partitions.replace partitions
      events := consumer.events.publish (.assigned partitions.length) }
  | .unassign =>
    { consumer with
      partitions := consumer.partitions.clear
      events := consumer.events.publish .unassigned }
  | .incrementalAssign partitions =>
    let extended := consumer.partitions.extend partitions
    { consumer with
      partitions := extended
      events := consumer.events.publish
        (.incrementalAssigned partitions.length extended.count) }
  | .incrementalUnassign partitions =>
    let (remaining, unmatched) := consumer.partitions.removeMatching partitions
    { consumer with
      partitions := remaining
      events := consumer.events.publish
        (.incrementalUnassigned (partitions.length - unmatched.length) remaining.count) }
  | _ => consumer

namespace Consumer

variable {ν α β : Type} {view : Site → ν} {client : Client}

/-- From this site the action fails and the view is kept, or it gives this answer and the view is
kept up to a change of the consumer that comes last. -/
def Settles (view : Site → ν) (change : Consumer → Consumer) (answer : α) (action : Action α)
    (site : Site) : Prop :=
  (∃ error failed, action.run site = (.error error, failed) ∧ view failed = view site) ∨
  ∃ between, view between = view site ∧
    action.run site = (.ok answer, { between with consumer := change between.consumer })

namespace Settles

variable {change : Consumer → Consumer} {answer : α} {site : Site}

/-- The change may come at once. -/
theorem last {action : Action α}
    (changes : ∀ site : Site, action.run site =
      (.ok answer, { site with consumer := change site.consumer })) :
    Settles view change answer action site :=
  .inr ⟨site, rfl, changes site⟩

/-- Failing is one way. -/
theorem throw (error : ConsumerError) :
    Settles view change answer (throw error : Action α) site :=
  .inl ⟨error, site, rfl, rfl⟩

/-- What keeps the view may go first. -/
theorem after {first : Action β} {rest : β → Action α} (before : Keeps view first.run)
    (settles : ∀ value site, Settles view change answer (rest value) site) :
    Settles view change answer (first >>= rest) site := by
  cases ran : first.run site with
  | mk outcome between =>
    have kept : view between = view site := by
      rw [← before site, ran]
    unfold Settles
    cases outcome with
    | error error => exact .inl ⟨error, between, run_bind_error ran, kept⟩
    | ok value =>
      rw [run_bind_ok ran]
      obtain ⟨error, failed, refused, same⟩ | ⟨last, same, done⟩ := settles value between
      · exact .inl ⟨error, failed, refused, same.trans kept⟩
      · exact .inr ⟨last, same.trans kept, done⟩

/-- What keeps the view and cannot fail may go first. -/
theorem lift {first : StateM Site β} {rest : β → Action α} (before : Keeps view first)
    (settles : ∀ value site, Settles view change answer (rest value) site) :
    Settles view change answer (liftM first >>= rest : Action α) site :=
  let first : Action β := liftM first
  have kept : Keeps view first.run := before
  after kept settles

/-- Reading the site may go first. -/
theorem get {rest : Site → Action α} (settles : Settles view change answer (rest site) site) :
    Settles view change answer (MonadState.get >>= rest) site :=
  settles

/-- Either of two ways is one. -/
theorem either {condition : Prop} [Decidable condition] {left right : Action α}
    (yes : Settles view change answer left site) (no : Settles view change answer right site) :
    Settles view change answer (if condition then left else right) site := by
  split
  · exact yes
  · exact no

/-- An action that is answered settles as the action does. -/
theorem answered {action : Action Unit} {change : Consumer → Consumer}
    (settles : Settles view change () action site) :
    Settles view change Reply.done (do action; pure .done) site := by
  obtain ⟨error, failed, refused, same⟩ | ⟨between, same, done⟩ := settles
  · exact .inl ⟨error, failed, run_bind_error refused, same⟩
  · exact .inr ⟨between, same, run_bind_ok done⟩

end Settles

/-- The end of connecting up to what the listeners are told. -/
def salute (client : Client) : Action Unit := do
  trace client .name
  update fun consumer =>
    { consumer with events := { consumer.events with clientName := some client.name } }
  note client.serial .onConnected
  let _ ← attempt (takeHookFault .onConnected)
  resumePrevious

/-- A handle is greeted by saluting it and telling the listeners. -/
theorem greet_eq (client : Client) : greet client = (do
    salute client
    publish (.connected client.name)) := by
  simp only [greet, salute, bind_assoc]

/-- Without a subscription there is none to drop. -/
theorem unsubscribe_unsubscribed {site : Site} (absent : site.consumer.isSubscribed = false) :
    unsubscribe.run site = (.ok (), site) := by
  unfold unsubscribe
  rw [run_get, absent]
  rfl

section Keeps

variable (aloof : Site.Aloof view)

include aloof

/-- Tracing a call keeps what looks past the boundary. -/
theorem keeps_note (handle : Option Nat) (call : Call) : Keeps view (note handle call) :=
  .change fun site => aloof.apart site _ _ _

/-- Using up a failure that is scripted for a hook keeps what looks past the boundary. -/
theorem keeps_takeHookFault (hook : Hook) : Keeps view (takeHookFault hook).run := by
  intro site
  rw [takeHookFault_run]
  exact aloof.apart site _ _ _

/-- The handle keeps what looks past it. -/
theorem keeps_onHandle {α : Type} (action : StateM Link α) :
    Keeps view (onHandle client action).run := by
  intro site
  rw [onHandle_run]
  exact aloof.apart site _ _ _

/-- A call keeps what looks past the handle. -/
theorem keeps_call {α : Type} (request : ClientCall) (primitive : Client.Action α) :
    Keeps view (call client request primitive).run := by
  intro site
  rw [call_run]
  exact aloof.apart site _ _ _

/-- A call that answers within its list keeps what looks past the handle. -/
theorem keeps_callOnList (traced : List TopicPartition → ClientCall) (primitive : Client.WriteBack)
    (partitions : List TopicPartition) :
    Keeps view (callOnList client traced primitive partitions).run := by
  intro site
  rw [callOnList_run]
  exact aloof.apart site _ _ _

/-- A call that answers within its list and that the boundary may fail keeps what looks past the
handle. -/
theorem keeps_callHookedOnList (hook : Hook) (traced : List TopicPartition → ClientCall)
    (primitive : Client.WriteBack) (partitions : List TopicPartition) :
    Keeps view (callHookedOnList hook client traced primitive partitions).run := by
  refine .lift (keeps_note aloof _ _) fun _ => .andThen (keeps_takeHookFault aloof hook) fun _ => ?_
  refine .andThen (keeps_onHandle aloof _) fun answer => ?_
  obtain ⟨outcome, answers⟩ := answer
  cases outcome with
  | ok _ => exact .pure _
  | error error => exact .throw _

/-- Beginning to poll keeps what looks past the handle. -/
theorem keeps_beginPoll (timeout : Nat) : Keeps view (beginPoll timeout).run :=
  .andThen keeps_openHandle fun _ => .afterReading fun _ =>
    .lift (keeps_note aloof _ _) fun _ => keeps_onHandle aloof _

/-- Resuming earlier partitions keeps what looks past the handle. -/
theorem keeps_resumePrevious : Keeps view resumePrevious.run := by
  refine .afterReading fun _ => .eitherThen ?_ (.pure _)
  refine .andThen keeps_openHandle fun client => .andThen ?_ fun _ => .pure _
  exact .bind (keeps_callHookedOnList aloof .resume _ _ _) fun _ => .pure _

/-- Installing a handle keeps what looks past it. -/
theorem keeps_installHandle : Keeps view installHandle.run := by
  intro site
  obtain ⟨_, result⟩ | ⟨_, _, _, result⟩ | ⟨_, _, result⟩ := installHandle_cases site
  · rw [result]
  · rw [result]
    exact aloof.apart site _ _ _
  · rw [result]
    exact aloof.apart site _ _ _

/-- Saluting a handle keeps what looks past it and its name. -/
theorem keeps_salute (client : Client) : Keeps view (salute client).run := by
  refine .lift (keeps_note aloof _ _) fun _ => .lift (.change fun site => aloof.nameless site _)
    fun _ => .lift (keeps_note aloof _ _) fun _ => .andThen ?_ fun _ => keeps_resumePrevious aloof
  exact .bind (keeps_takeHookFault aloof .onConnected) fun _ => .pure _

/-- Where there is no handle, connecting succeeds only by greeting a handle that was installed, with
what looks past the handle kept until then. -/
theorem connect_greets {site site' : Site} (vacant : site.consumer.connection = .disconnected)
    (done : connect.run site = (.ok (), site')) :
    ∃ (client : Client) (begun : Site), begun.consumer.connection = .connected client ∧
      view begun = view site ∧ (greet client).run begun = (.ok (), site') := by
  obtain ⟨boundary, greeted⟩ := connect_eq_ok vacant done
  exact ⟨_, _, rfl, aloof.apart site _ _ _, greeted⟩

/-- Greeting a handle keeps what looks past it and its name until the listeners are told, which
comes last. -/
theorem greet_ends {site site' : Site} (done : (greet client).run site = (.ok (), site')) :
    ∃ between : Site, view between = view site ∧ site' = { between with consumer :=
      { between.consumer with
        events := between.consumer.events.publish (.connected client.name) } } := by
  rw [greet_eq] at done
  obtain ⟨_, between, saluted, told⟩ := run_bind_eq_ok done
  refine ⟨between, ?_, (Prod.mk.inj told).2.symm⟩
  rw [← keeps_salute aloof client site, saluted]

/-- Storing offsets keeps what looks past the handle. -/
theorem keeps_storeOffsets (partitions : List TopicPartition) :
    Keeps view (storeOffsets partitions).run :=
  .afterReading fun _ => .eitherThen (.throw _) (.andThen keeps_openHandle fun _ =>
    .andThen (keeps_requireWellFormed partitions) fun _ => keeps_callOnList aloof _ _ _)

/-- Every quiet operation that neither polls nor commits keeps what looks past the handle. -/
theorem keeps_quiet {operation : Operation} (inside : StateM Site Unit) (quiet : operation.IsQuiet)
    (uncounted : ¬operation.IsCounted) : Keeps view (operation.perform inside).run := by
  have answer {α : Type} {action : Action α} (reply : α → Reply)
      (kept : Keeps view action.run) :
      Keeps view (do pure (reply (← action)) : Action Reply).run :=
    .andThen kept fun _ => .pure _
  cases operation with
  | connect | disconnect | subscribe | unsubscribe | assign | unassign | incrementalAssign
  | incrementalUnassign | refreshAssignments | assignments | activate | deactivate =>
    exact quiet.elim
  | commit | consume | consumeMany => exact absurd trivial uncounted
  | subscription =>
    refine answer _ (.andThen keeps_openHandle fun _ => .lift (keeps_note aloof _ _) fun _ => ?_)
    refine .andThen (keeps_takeHookFault aloof _) fun _ =>
      .andThen (keeps_onHandle aloof _) fun outcome => ?_
    cases outcome with
    | error error => exact .throw _
    | ok topics => exact .pure _
  | seek tp timeout =>
    exact answer _ (.andThen keeps_openHandle fun _ => .andThen (keeps_requireWellFormed _) fun _ =>
      .andThen (fun _ => rfl) fun _ => keeps_call aloof _ _)
  | committed partitions timeout | offsetsForTimes partitions timeout =>
    exact answer _ (.andThen keeps_openHandle fun _ => .andThen (keeps_requireWellFormed _) fun _ =>
      .andThen (fun _ => rfl) fun _ => keeps_callOnList aloof _ _ _)
  | position partitions | pause partitions | resume partitions =>
    exact answer _ (.andThen keeps_openHandle fun _ => .andThen (keeps_requireWellFormed _) fun _ =>
      keeps_callHookedOnList aloof _ _ _ _)
  | storeOffsets partitions => exact answer _ (keeps_storeOffsets aloof partitions)
  | storeOffset key offset leaderEpoch =>
    exact answer _ (.andThen (keeps_storeOffsets aloof _) fun _ => .pure _)
  | cachedWatermarks key =>
    exact answer _ (.andThen keeps_openHandle fun _ => keeps_call aloof _ _)
  | queryWatermarks key timeout =>
    exact answer _ (.andThen keeps_openHandle fun _ => .andThen (fun _ => rfl) fun _ =>
      keeps_call aloof _ _)
  | rebalanceProtocol =>
    refine .lift (.bind .get fun site => ?_) fun _ => .pure _
    cases site.consumer.connection.connected? with
    | none => exact .pure _
    | some client => exact .bind (keeps_note aloof _ _) fun _ => .bind .get fun _ => .pure _
  | hasAssigned | name | isClosing | isConnected | metrics => exact .afterReading fun _ => .pure _

/-- An operation that changes what the consumer believes fails and keeps what looks past the handle,
or is accepted and keeps it up to the change. Only an unsubscribe without a subscription succeeds
without a change. -/
theorem perform_settles {operation : Operation} (settling : operation.IsSettling)
    (inside : StateM Site Unit) (site : Site)
    (subscribed : operation = .unsubscribe → site.consumer.isSubscribed = true) :
    Settles view operation.settle .done (operation.perform inside) site := by
  cases operation with
  | subscribe topics =>
    refine .answered (.after keeps_openHandle fun _ _ =>
      .either (.throw _) (.either (.throw _) ?_))
    exact .after (keeps_call aloof _ _) fun _ _ => .last fun _ => rfl
  | unsubscribe =>
    refine .answered (.get ?_)
    rw [if_pos (subscribed rfl)]
    refine .after keeps_openHandle fun _ _ => .lift (keeps_note aloof _ _) fun _ _ =>
      .after (keeps_takeHookFault aloof _) fun _ _ => .after (keeps_onHandle aloof _) ?_
    intro outcome site
    cases outcome with
    | error error => exact .throw _
    | ok _ => exact .last fun _ => rfl
  | assign partitions =>
    refine .answered (.after keeps_openHandle fun _ _ => .after (keeps_requireWellFormed _)
      fun _ _ => .after (keeps_call aloof _ _) fun _ _ => ?_)
    exact .last fun _ => rfl
  | unassign =>
    refine .answered (.after keeps_anyHandle fun _ _ => .after (keeps_call aloof _ _)
      fun _ _ => ?_)
    exact .last fun _ => rfl
  | incrementalAssign partitions =>
    refine .answered (.after keeps_openHandle fun _ _ => .after (keeps_requireWellFormed _)
      fun _ _ => .after (keeps_call aloof _ _) fun _ _ => ?_)
    exact .last fun _ => rfl
  | incrementalUnassign partitions =>
    refine .answered (.after keeps_anyHandle fun _ _ => .after (keeps_requireWellFormed _)
      fun _ _ => .after (keeps_call aloof _ _) fun _ _ => ?_)
    exact .last fun _ => rfl
  | _ => exact settling.elim

/-- What looks past the handle and the change of an operation is kept by the operation. -/
theorem keeps_settling {operation : Operation} (settling : operation.IsSettling)
    (unsettled : ∀ site : Site,
      view { site with consumer := operation.settle site.consumer } = view site)
    (inside : StateM Site Unit) : Keeps view (operation.perform inside).run := by
  intro site
  by_cases idle : operation = .unsubscribe ∧ site.consumer.isSubscribed = false
  · obtain ⟨rfl, absent⟩ := idle
    have still : (Operation.unsubscribe.perform inside).run site = _ :=
      run_bind_ok (unsubscribe_unsubscribed absent)
    rw [still]
    rfl
  · have subscribed (same : operation = .unsubscribe) : site.consumer.isSubscribed = true :=
      Bool.of_not_eq_false fun absent => idle ⟨same, absent⟩
    obtain ⟨_, failed, refused, kept⟩ | ⟨between, kept, done⟩ :=
      perform_settles aloof settling inside site subscribed
    · rw [refused]
      exact kept
    · rw [done]
      exact (unsettled between).trans kept

/-- Taking over the client's assignment keeps what looks past the handle and the partitions. -/
theorem keeps_refreshAssignments
    (unpartitioned : ∀ (site : Site) (partitions : PartitionSet),
      view { site with consumer := { site.consumer with partitions } } = view site) :
    Keeps view refreshAssignments.run :=
  .andThen keeps_openHandle fun _ => .andThen (keeps_call aloof _ _) fun _ =>
    .change fun site => unpartitioned site _

section Counters

variable (uncounting : ∀ (site : Site) (metrics : Metrics),
  view { site with consumer := { site.consumer with metrics } } = view site)

include uncounting

/-- A consume keeps what looks past the handle and the counters. -/
theorem keeps_consume (timeout : Nat) : Keeps view (consume timeout).run :=
  .andThen (keeps_beginPoll aloof timeout) fun _ =>
    .lift (.change fun site => uncounting site _) fun _ => .pure _

/-- A gathering keeps what looks past the handle and the counters. -/
theorem keeps_gather (count : Nat) (nextTimeout : Option Nat) (limit : Nat)
    (gathering : Gathering) : Keeps view (gather count nextTimeout limit gathering) := by
  induction limit generalizing gathering with
  | zero => exact .pure _
  | succ limit ih =>
    refine .either (.pure _) (.bind (keeps_consume aloof uncounting _) fun outcome => ?_)
    cases gathering.receive nextTimeout outcome with
    | going gathering => exact ih gathering
    | ended result => exact .pure _

/-- Consuming and committing keep what looks past the handle and the counters. -/
theorem keeps_counted {operation : Operation} (inside : StateM Site Unit)
    (counted : operation.IsCounted) : Keeps view (operation.perform inside).run := by
  cases operation with
  | commit partitions mode =>
    refine .andThen (.andThen keeps_openHandle fun _ =>
      .andThen (keeps_requireWellFormed _) fun _ => .lift (keeps_note aloof _ _) fun _ =>
        .andThen (keeps_onHandle aloof _) fun outcome => ?_) fun _ => .pure _
    refine .lift (.change fun site => uncounting site _) fun _ => ?_
    cases outcome with
    | ok _ => exact .pure _
    | error error => exact .throw _
  | consume timeout =>
    exact .andThen (keeps_consume aloof uncounting timeout) fun _ => .pure _
  | consumeMany count timeout firstOnly =>
    have many : Keeps view (consumeMany count timeout firstOnly).run :=
      .bind .get fun _ => keeps_gather aloof uncounting _ _ _ _
    exact .andThen many fun _ => .pure _
  | _ => exact counted.elim

end Counters

end Keeps

end Consumer

end LogConsumer
