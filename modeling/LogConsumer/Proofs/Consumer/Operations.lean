import LogConsumer.Proofs.Consumer.Acts
import LogConsumer.Task

/-!
# Acts of the operations

Which calls each operation makes on its handle (`Operation.Makes`), and that every operation but
connecting and disconnecting is a sequence of acts of its own (`Consumer.Does.perform`), from every
site and whatever it answers.
-/
namespace LogConsumer

/-- The calls that an operation makes on the handle. -/
def Operation.Makes : Operation → ClientCall → Prop
  | .connect, request => request = .name ∨ ∃ partitions, request = .resume partitions
  | .disconnect, request => request = .close
  | .subscribe topics, request => request = .subscribe topics
  | .unsubscribe, request => request = .unsubscribe
  | .subscription, request => request = .subscription
  | .assign partitions, request => request = .assign partitions
  | .unassign, request => request = .unassign
  | .incrementalAssign partitions, request => request = .incrementalAssign partitions
  | .incrementalUnassign partitions, request => request = .incrementalUnassign partitions
  | .refreshAssignments, request | .assignments, request => request = .assignment
  | .commit partitions mode, request => request = .commit partitions mode
  | .consume _, request | .consumeMany _ _ _, request => ∃ timeout, request = .poll timeout
  | .seek tp _, request => ∃ timeout, request = .seek tp timeout
  | .committed partitions _, request => ∃ timeout, request = .committed partitions timeout
  | .position partitions, request => request = .position partitions
  | .pause partitions, request => request = .pause partitions
  | .resume partitions, request => request = .resume partitions
  | .storeOffsets partitions, request => request = .storeOffsets partitions
  | .storeOffset _ _ _, request => ∃ partitions, request = .storeOffsets partitions
  | .offsetsForTimes partitions _, request =>
    ∃ timeout, request = .offsetsForTimes partitions timeout
  | .cachedWatermarks key, request => request = .cachedWatermarks key
  | .queryWatermarks key _, request => ∃ timeout, request = .queryWatermarks key timeout
  | .rebalanceProtocol, request => request = .rebalanceProtocol
  | .hasAssigned, _ | .name, _ | .isClosing, _ | .isConnected, _ | .activate, _ | .deactivate, _
  | .metrics, _ => False

/-- The operation may change what the consumer believes to be assigned. -/
def Operation.Resets : Operation → Prop
  | .subscribe _ | .unsubscribe | .assign _ | .unassign | .incrementalAssign _
  | .incrementalUnassign _ | .refreshAssignments | .assignments => True
  | _ => False

/-- The operation may change the set of partitions. -/
def Operation.Reassigns : Operation → Prop
  | .assign _ | .unassign | .incrementalAssign _ | .incrementalUnassign _ | .refreshAssignments
  | .assignments => True
  | _ => False

/-- The operation is about offsets: it commits or stores some, moves or pauses the reading of
partitions, or looks something up for them. -/
def Operation.OnOffsets : Operation → Prop
  | .commit _ _ | .seek _ _ | .committed _ _ | .position _ | .pause _ | .resume _ | .storeOffsets _
  | .storeOffset _ _ _ | .offsetsForTimes _ _ | .cachedWatermarks _ | .queryWatermarks _ _ => True
  | _ => False

/-- The set of partitions that an operation leaves where it changes the set: it takes well-formed
partitions over, drops some, or takes over what the open handle reads. -/
def Operation.Sets (site : Site) : Operation → PartitionSet → Prop
  | .assign partitions, set =>
    (∀ tp ∈ partitions, tp.WellFormed) ∧ set = site.consumer.partitions.replace partitions
  | .unassign, set => set = site.consumer.partitions.clear
  | .incrementalAssign partitions, set =>
    (∀ tp ∈ partitions, tp.WellFormed) ∧ set = site.consumer.partitions.extend partitions
  | .incrementalUnassign partitions, set =>
    set = (site.consumer.partitions.removeMatching partitions).1
  | .refreshAssignments, set | .assignments, set => ∃ client,
    site.consumer.connection = .connected client ∧
      set = site.consumer.partitions.replace client.readPartitions
  | _, _ => False

/-- The operation is neither about the connection nor about the subscription. -/
def Operation.SparesSession : Operation → Prop
  | .connect | .disconnect | .subscribe _ | .unsubscribe => False
  | _ => True

namespace Consumer

/-- The end of connecting: the new handle is asked for its name, the factory is told about it,
earlier partitions are resumed, and the listeners are told. -/
def greet (client : Client) : Action Unit := do
  trace client .name
  update fun consumer =>
    { consumer with events := { consumer.events with clientName := some client.name } }
  note client.serial .onConnected
  let _ ← attempt (takeHookFault .onConnected)
  resumePrevious
  publish (.connected client.name)

/-- Connecting does nothing where a handle is open; else the factory prepares, and a handle that it
creates is greeted. -/
theorem connect_eq : connect = (do
    if !(← get).consumer.connection.isConnected then
      note none .prepare
      takeHookFault .prepare
      match ← installHandle with
      | none => pure ()
      | some client => greet client) :=
  rfl

/-- Where there is no handle, connecting succeeds only by greeting a handle that was installed, with
nothing changed before but what is traced and scripted. -/
theorem connect_eq_ok {site site' : Site} (vacant : site.consumer.connection = .disconnected)
    (done : connect.run site = (.ok (), site')) :
    ∃ boundary : Boundary,
      let prepared : Site := { site with consumer := { site.consumer with boundary } }
      (greet (nextClient prepared)).run (installed prepared) = (.ok (), site') := by
  have absent : site.consumer.connection.isConnected = false := by
    rw [vacant]
    rfl
  rw [connect_eq, run_get, absent] at done
  obtain ⟨_, noted, ran, done⟩ := run_bind_eq_ok done
  obtain ⟨_, prepared, hook, done⟩ := run_bind_eq_ok done
  have kept : ∃ boundary : Boundary,
      prepared = { site with consumer := { site.consumer with boundary } } := by
    cases ran
    rw [takeHookFault_run] at hook
    exact ⟨_, (Prod.mk.inj hook).2.symm⟩
  obtain ⟨boundary, rfl⟩ := kept
  obtain ⟨installed, begun, install, done⟩ := run_bind_eq_ok done
  obtain ⟨present, _⟩ | ⟨_, _, _, refused⟩ | ⟨_, _, created⟩ := installHandle_cases
    { site with consumer := { site.consumer with boundary } }
  · exact absurd vacant present
  · cases refused.symm.trans install
  · cases created.symm.trans install
    exact ⟨boundary, done⟩

end Consumer

namespace Consumer.Does

variable {makes : ClientCall → Prop} {resets : Prop} {site : Site}

/-- Beginning to poll is one call. -/
theorem beginPoll (timeout : Nat) (may : ∀ timeout, makes (.poll timeout)) :
    Acts makes resets (Consumer.beginPoll timeout).run site := by
  refine openHandle fun client state => get ?_
  exact lift (trace (.inl state) (may _)) (onHandle (.inl state) (may _) fun _ => rfl)

/-- A consume polls once. -/
theorem consume (timeout : Nat) (may : ∀ timeout, makes (.poll timeout)) :
    Acts makes resets (Consumer.consume timeout).run site :=
  (beginPoll timeout may).bind fun _ _ _ => lift (tidy fun _ => rfl) (idle rfl)

/-- A gathering polls again and again. -/
theorem gather (count : Nat) (next : Option Nat) (may : ∀ timeout, makes (.poll timeout))
    (limit : Nat) (gathering : Gathering) (site : Site) :
    Acts makes resets (Consumer.gather count next limit gathering) site := by
  induction limit generalizing gathering site with
  | zero => exact idle rfl
  | succ limit ih =>
    unfold Consumer.gather
    split
    · exact idle rfl
    · refine (consume gathering.timeout may).andThen ?_
      cases gathering.receive next _ with
      | going gathering => exact ih gathering _
      | ended result => exact idle rfl

/-- A bounded consume polls again and again. -/
theorem consumeMany (count timeout : Nat) (firstOnly : Bool)
    (may : ∀ timeout, makes (.poll timeout)) :
    Acts makes resets (Consumer.consumeMany count timeout firstOnly).run site :=
  read (gather count _ may _ _ site)

/-- A call that the boundary may fail and that answers within its list is traced, and performed
unless it fails. -/
theorem callHookedOnList {hook : Hook} {client : Client} {traced : List TopicPartition → ClientCall}
    {primitive : Client.WriteBack} {partitions : List TopicPartition}
    (admits : site.Admits client (traced partitions)) (may : makes (traced partitions))
    (performs : ∀ link, ((traced partitions).perform link).2 = (primitive partitions link).2) :
    Acts makes resets (Consumer.callHookedOnList hook client traced primitive partitions).run
      site := by
  refine hooked admits may (fun _ _ => Act.of_calm) fun site' admits => ?_
  refine (onHandle admits may performs).bind fun answer site'' _ => ?_
  obtain ⟨outcome, answers⟩ := answer
  cases outcome with
  | ok _ => exact pure _
  | error error => exact throw _

/-- Resuming earlier partitions is one call at most. -/
theorem resumePrevious (may : makes (.resume site.consumer.partitions.entries)) :
    Acts makes resets Consumer.resumePrevious.run site := by
  refine get (either (openHandle fun client state => ?_) (pure _))
  refine bind (attempt ?_) fun _ _ _ => pure _
  exact callHookedOnList (.inl state) may fun _ => rfl

/-- Greeting a handle is a sequence of acts, but for what the factory is told. -/
theorem greet {relation : Site → Site → Prop} {client : Client}
    (opened : site.consumer.connection = .connected client)
    (acts : ∀ site site', Act Operation.connect.Makes False site site' → relation site site')
    (tells : ∀ site : Site, site.consumer.connection = .connected client →
      relation site (note client.serial .onConnected site).2) :
    Does relation (Consumer.greet client).run site := by
  refine lift (Does.mono (trace (.inl opened) (.inl rfl)) acts) ?_
  refine lift (Does.mono (tidy fun _ => rfl) acts) ?_
  refine lift (.single (tells _ opened)) ?_
  refine bind (attempt ((takeHookFault .onConnected).mono acts)) fun _ told _ => ?_
  have resumes : Acts Operation.connect.Makes False Consumer.resumePrevious.run told :=
    resumePrevious (.inr ⟨_, rfl⟩)
  exact bind (resumes.mono acts) fun _ site' _ => (publish _).mono acts

/-- An operation on a list that passes one gate for the handle and one for the list, and then
calls. -/
theorem listed {hook : Hook} {traced : List TopicPartition → ClientCall}
    {primitive : Client.WriteBack} {partitions : List TopicPartition}
    (may : (∀ tp ∈ partitions, tp.WellFormed) → makes (traced partitions))
    (performs : ∀ link, ((traced partitions).perform link).2 = (primitive partitions link).2) :
    Acts makes resets (do
      let client ← Consumer.openHandle
      Consumer.requireWellFormed partitions
      Consumer.callHookedOnList hook client traced primitive partitions :
        Action (List TopicPartition)).run site :=
  openHandle fun _ state => requireWellFormed fun formed =>
    callHookedOnList (.inl state) (may formed) performs

/-- Storing offsets takes a subscription and one call. -/
theorem storeOffsets (partitions : List TopicPartition)
    (may : (∀ tp ∈ partitions, tp.WellFormed) → makes (.storeOffsets partitions)) :
    Acts makes resets (Consumer.storeOffsets partitions).run site := by
  refine get ?_
  have rest : Acts makes resets (do
      let client ← Consumer.openHandle
      Consumer.requireWellFormed partitions
      Consumer.callOnList client .storeOffsets Client.storeOffsets partitions :
        Action (List TopicPartition)).run site :=
    openHandle fun client state => requireWellFormed fun formed =>
      callOnList (.inl state) (may formed) fun _ => rfl
  exact either (throw _) rest

/-- Storing one offset takes a subscription and one call. -/
theorem storeOffset (key : PartitionKey) (offset : Int) (leaderEpoch : Option Int)
    (may : ∀ partitions : List TopicPartition, (∀ tp ∈ partitions, tp.WellFormed) →
      makes (.storeOffsets partitions)) :
    Acts makes resets (Consumer.storeOffset key offset leaderEpoch).run site :=
  bind (storeOffsets _ (may _)) fun _ _ _ => pure _

/-- Moving a position is one call. -/
theorem seek (tp : TopicPartition) (timeout : Nat)
    (may : (∀ other ∈ [tp], other.WellFormed) → ∀ timeout, makes (.seek tp timeout)) :
    Acts makes resets (Consumer.seek tp timeout).run site :=
  openHandle fun _ state => requireWellFormed fun formed => clamped fun timeout =>
    call (.inl state) (may formed timeout) fun _ => rfl

/-- A look-up on a list that passes one gate for the handle and one for the list, and then calls
with a timeout that was raised. -/
theorem listedWithin {traced : Nat → List TopicPartition → ClientCall}
    {primitive : Client.WriteBack} {partitions : List TopicPartition} (timeout : Nat)
    (may : (∀ tp ∈ partitions, tp.WellFormed) → ∀ timeout, makes (traced timeout partitions))
    (performs : ∀ timeout link,
      ((traced timeout partitions).perform link).2 = (primitive partitions link).2) :
    Acts makes resets (do
      let client ← Consumer.openHandle
      Consumer.requireWellFormed partitions
      let timeout ← Consumer.clamped timeout
      Consumer.callOnList client (traced timeout) primitive partitions :
        Action (List TopicPartition)).run site :=
  openHandle fun _ state => requireWellFormed fun formed => clamped fun timeout =>
    callOnList (.inl state) (may formed timeout) (performs timeout)

/-- Reading the watermarks at hand is one call. -/
theorem cachedWatermarks (key : PartitionKey) (may : makes (.cachedWatermarks key)) :
    Acts makes resets (Consumer.cachedWatermarks key).run site :=
  openHandle fun _ state => call (.inl state) may fun _ => rfl

/-- Asking for watermarks is one call. -/
theorem queryWatermarks (key : PartitionKey) (timeout : Nat)
    (may : ∀ timeout, makes (.queryWatermarks key timeout)) :
    Acts makes resets (Consumer.queryWatermarks key timeout).run site :=
  openHandle fun _ state => clamped fun timeout => call (.inl state) (may timeout) fun _ => rfl

/-- Subscribing is one call and a change of the subscription flag. -/
theorem subscribe {relation : Site → Site → Prop} (topics : List String)
    (may : (∀ topic ∈ topics, topic ≠ "") → makes (.subscribe topics))
    (acts : ∀ site site', Act makes False site site' → relation site site')
    (flags : ∀ (site : Site) (subscriptionFlag : Bool),
      relation site { site with consumer := { site.consumer with subscriptionFlag } }) :
    Does relation (Consumer.subscribe topics).run site := by
  refine openHandle fun client state => either (throw _) ?_
  by_cases blank : topics.any isBlank = true
  · rw [if_pos blank]
    exact throw _
  · rw [if_neg blank]
    have named : ∀ topic ∈ topics, topic ≠ "" := by
      rintro topic listed rfl
      exact blank (List.any_eq_true.mpr ⟨"", listed, by decide⟩)
    refine bind ((call (.inl state) (may named) fun _ => rfl).mono acts) fun _ site' _ => ?_
    exact lift (.single (flags site' true)) ((publish _).mono acts)

/-- Dropping the subscription is one call and a change of the subscription flag, or nothing at
all. -/
theorem unsubscribe {relation : Site → Site → Prop} (may : makes .unsubscribe)
    (acts : ∀ site site', Act makes False site site' → relation site site')
    (flags : ∀ (site : Site) (subscriptionFlag : Bool),
      relation site { site with consumer := { site.consumer with subscriptionFlag } }) :
    Does relation Consumer.unsubscribe.run site := by
  refine get (either (openHandle fun client state => ?_) (pure _))
  refine hooked (.inl state) may acts fun site' admits => ?_
  refine bind ((onHandle admits may fun _ => rfl).mono acts) fun outcome site'' _ => ?_
  cases outcome with
  | error error => exact throw _
  | ok _ => exact lift (.single (flags site'' false)) ((publish _).mono acts)

/-- Reading the subscription is one call. -/
theorem subscription (may : makes .subscription) :
    Acts makes resets Consumer.subscription.run site := by
  refine openHandle fun client state =>
    hooked (.inl state) may (fun _ _ => Act.of_calm) fun site' admits => ?_
  refine bind (onHandle admits may fun _ => rfl) fun outcome site'' _ => ?_
  cases outcome with
  | error error => exact throw _
  | ok topics => exact pure _

/-- Committing is one call, which is counted. -/
theorem commit (partitions : Option (List TopicPartition)) (mode : CommitMode)
    (may : (∀ tp ∈ partitions.getD [], tp.WellFormed) → makes (.commit partitions mode)) :
    Acts makes resets (Consumer.commit partitions mode).run site := by
  refine openHandle fun client state => requireWellFormed fun formed => ?_
  refine lift (trace (.inl state) (may formed)) ?_
  have admits : (site.traced client (.commit partitions mode)).Admits client
      (.commit partitions mode) := .inl state
  refine bind (onHandle admits (may formed) fun _ => rfl) fun outcome site' _ => ?_
  refine lift (tidy fun _ => rfl) ?_
  cases outcome with
  | ok _ => exact pure _
  | error error => exact throw _

/-- Replacing the assignment is one call and a change of the set of partitions. -/
theorem assign {relation : Site → Site → Prop} (partitions : List TopicPartition)
    (may : (∀ tp ∈ partitions, tp.WellFormed) → makes (.assign partitions))
    (acts : ∀ site site', Act makes False site site' → relation site site')
    (sets : (∀ tp ∈ partitions, tp.WellFormed) → ∀ site : Site,
      relation site { site with consumer := { site.consumer with
        partitions := site.consumer.partitions.replace partitions } }) :
    Does relation (Consumer.assign partitions).run site := by
  refine openHandle fun client state => requireWellFormed fun formed => ?_
  refine bind ((call (.inl state) (may formed) fun _ => rfl).mono acts) fun _ site' _ => ?_
  exact lift (.single (sets formed site')) ((publish _).mono acts)

/-- Dropping the assignment is one call and a change of the set of partitions. -/
theorem unassign {relation : Site → Site → Prop} (may : makes .unassign)
    (acts : ∀ site site', Act makes False site site' → relation site site')
    (sets : ∀ site : Site, relation site { site with consumer := { site.consumer with
      partitions := site.consumer.partitions.clear } }) :
    Does relation Consumer.unassign.run site := by
  refine anyHandle fun client admits => ?_
  refine bind ((call (admits .unassign trivial) may fun _ => rfl).mono acts) fun _ site' _ => ?_
  exact lift (.single (sets site')) ((publish _).mono acts)

/-- Adding to the assignment is one call and a change of the set of partitions. -/
theorem incrementalAssign {relation : Site → Site → Prop} (partitions : List TopicPartition)
    (may : (∀ tp ∈ partitions, tp.WellFormed) → makes (.incrementalAssign partitions))
    (acts : ∀ site site', Act makes False site site' → relation site site')
    (sets : (∀ tp ∈ partitions, tp.WellFormed) → ∀ site : Site,
      relation site { site with consumer := { site.consumer with
        partitions := site.consumer.partitions.extend partitions } }) :
    Does relation (Consumer.incrementalAssign partitions).run site := by
  refine openHandle fun client state => requireWellFormed fun formed => ?_
  refine bind ((call (.inl state) (may formed) fun _ => rfl).mono acts) fun _ site' _ => ?_
  exact lift (.single (sets formed site')) (get ((publish _).mono acts))

/-- Taking from the assignment is one call and a change of the set of partitions. -/
theorem incrementalUnassign {relation : Site → Site → Prop} (partitions : List TopicPartition)
    (may : (∀ tp ∈ partitions, tp.WellFormed) → makes (.incrementalUnassign partitions))
    (acts : ∀ site site', Act makes False site site' → relation site site')
    (sets : ∀ site : Site, relation site { site with consumer := { site.consumer with
      partitions := (site.consumer.partitions.removeMatching partitions).1 } }) :
    Does relation (Consumer.incrementalUnassign partitions).run site := by
  refine anyHandle fun client admits => requireWellFormed fun formed => ?_
  have called : Acts makes False (Consumer.call client (.incrementalUnassign partitions)
      (Client.incrementalUnassign partitions)).run site :=
    call (admits (.incrementalUnassign partitions) trivial) (may formed) fun _ => rfl
  refine bind (called.mono acts) fun _ site' _ => get ?_
  exact lift (.single (sets site')) ((publish _).mono acts)

/-- A handle that answers what it reads is open afterwards and reads that. -/
theorem connection_of_assignment {client : Client} {current : List TopicPartition} {site' : Site}
    (opened : site.consumer.connection = .connected client)
    (answered : (Consumer.call client .assignment Client.assignedPartitions).run site =
      (.ok current, site')) :
    site'.consumer.connection = .connected client ∧ current = client.readPartitions := by
  rw [call_run] at answered
  obtain ⟨_, refused⟩ | read := Client.assignedPartitions_cases ⟨client, site.cluster⟩
  · rw [refused] at answered
    cases answered
  · rw [read] at answered
    cases answered
    refine ⟨?_, rfl⟩
    change site.consumer.connection.update client = _
    rw [opened]
    rfl

/-- Taking the client's assignment over is one call and a change of the set of partitions. -/
theorem refreshAssignments {relation : Site → Site → Prop} (may : makes .assignment)
    (acts : ∀ site site', Act makes False site site' → relation site site')
    (sets : ∀ (site : Site) (client : Client), site.consumer.connection = .connected client →
      relation site { site with consumer := { site.consumer with
        partitions := site.consumer.partitions.replace client.readPartitions } }) :
    Does relation Consumer.refreshAssignments.run site := by
  refine openHandle fun client state => ?_
  refine bind ((call (.inl state) may fun _ => rfl).mono acts) fun current site' answered => ?_
  obtain ⟨opened, rfl⟩ := connection_of_assignment state answered
  exact .single (sets site' client opened)

/-- Asking for the rebalance protocol is one call at most. -/
theorem rebalanceProtocol (may : makes .rebalanceProtocol) :
    Acts makes resets Consumer.rebalanceProtocol site := by
  refine read ?_
  cases state : site.consumer.connection with
  | connected client => exact andThen (trace (.inl state) may) (idle rfl)
  | disconnected => exact idle rfl
  | closing client => exact idle rfl

/-- Passing a signal to the loop keeps books. -/
theorem signalLoop (signal : LoopSignal) (site : Site) :
    Acts makes resets (Consumer.signalLoop signal) site := by
  refine read ?_
  generalize site.consumer.loop = place
  cases place with
  | none => exact idle rfl
  | some loop => exact andThen (tidy fun _ => rfl) (optional (publish _))

/-- Ending the poll of the loop counts its outcome and passes a signal, or does nothing. -/
theorem endLoopPollInParts {relation : Site → Site → Prop}
    (signals : ∀ signal site, signal ≠ .panic → Does relation (Consumer.signalLoop signal) site)
    (counts : ∀ outcome site, Does relation (Consumer.countOutcome outcome) site) (site : Site) :
    Does relation Consumer.endLoopPoll site := by
  refine read ?_
  generalize site.consumer.loop.map ConsumeLoop.phase = phase
  split
  · exact andThen (counts _ _) (signals _ _ nofun)
  · exact idle rfl

/-- Ending the poll of the loop keeps books. -/
theorem endLoopPoll (site : Site) : Acts makes resets Consumer.endLoopPoll site :=
  endLoopPollInParts (fun signal site _ => signalLoop signal site)
    (fun _ _ => tidy fun _ => rfl) site

/-- Stopping the loop keeps books. -/
theorem stopLoop (wait : Nat) (reportsPanic : Bool) (site : Site) :
    Acts makes resets (Consumer.stopLoop wait reportsPanic).run site := by
  refine get ?_
  cases site.consumer.loop with
  | none => exact pure _
  | some loop =>
    have ending (site : Site) : Acts makes resets (do
        Consumer.signalLoop .look
        let panicked := (← MonadState.get).consumer.loop.any ConsumeLoop.isPanicked
        update fun consumer => { consumer with loop := none }
        if panicked && reportsPanic then MonadExcept.throw (.internal .workerPanicked) :
          Action Unit).run site := by
      refine lift (signalLoop _ _) (get (lift (tidy fun _ => rfl) ?_))
      exact either (throw _) (pure _)
    refine lift (signalLoop _ _) (get ?_)
    split
    · refine either (lift (signalLoop _ _) (throw _)) ?_
      exact lift (endLoopPoll _) (ending _)
    · exact ending _

/-- Starting the loop keeps books. -/
theorem consumeLoop (timeout sleepDelay : Option Nat) (site : Site) :
    Acts makes resets (Consumer.consumeLoop timeout sleepDelay).run site := by
  have start (settings : LoopSettings) :
      Acts makes resets (Consumer.startLoop settings).run site := by
    have placed : Acts makes resets (update fun consumer =>
        { consumer with loop := some { settings }, deliveries := [] }) site := tidy fun _ => rfl
    exact get (either (throw _) placed)
  refine get (either (throw _) ?_)
  exact bind (start _) fun _ site' _ => publish _

/-- A step of the loop passes a signal, ends the poll of the loop, or begins one. -/
theorem advanceLoopInParts {relation : Site → Site → Prop}
    (signals : ∀ signal site, signal ≠ .panic → Does relation (Consumer.signalLoop signal) site)
    (counts : ∀ outcome site, Does relation (Consumer.countOutcome outcome) site)
    (polls : ∀ timeout site, Does relation (Consumer.beginPoll timeout).run site)
    (workerFree : Bool) (site : Site) : Does relation (Consumer.advanceLoop workerFree) site := by
  refine read ?_
  generalize site.consumer.loop = place
  cases place with
  | none => exact idle rfl
  | some loop =>
    dsimp only
    generalize loop.phase = phase
    cases phase with
    | checking => exact signals _ _ nofun
    | waiting =>
      refine optional (andThen (polls _ _) ?_)
      generalize ((Consumer.beginPoll loop.settings.timeout).run site).1 = outcome
      cases outcome with
      | ok polled => exact signals _ _ nofun
      | error error => exact signals _ _ nofun
    | polling outcome remaining => exact endLoopPollInParts signals counts _
    | backingOff => exact signals _ _ nofun
    | exited panicked => exact idle rfl

/-- A step of the loop polls at most once. -/
theorem advanceLoop (workerFree : Bool) (may : ∀ timeout, makes (.poll timeout)) (site : Site) :
    Acts makes resets (Consumer.advanceLoop workerFree) site :=
  advanceLoopInParts (fun signal site _ => signalLoop signal site) (fun _ _ => tidy fun _ => rfl)
    (fun timeout _ => beginPoll timeout may) workerFree site

/-- An operation that may change the set of partitions is a sequence of calls and of changes of the
set. -/
theorem performReassigning {relation : Site → Site → Prop} {operation : Operation}
    (inside : StateM Site Unit) (reassigns : operation.Reassigns)
    (acts : ∀ site site',
      Act (fun request => operation.Makes request ∧ request.WellFormed) False site site' →
        relation site site')
    (sets : ∀ (site : Site) (partitions : PartitionSet), operation.Sets site partitions →
      relation site { site with consumer := { site.consumer with partitions } })
    (site : Site) : Does relation (operation.perform inside).run site := by
  cases operation with
  | assign partitions =>
    exact answer (assign partitions (fun formed => ⟨rfl, .of_descriptors formed nofun⟩) acts
      fun formed site => sets site _ ⟨formed, rfl⟩)
  | unassign =>
    exact answer (unassign ⟨rfl, .of_bare rfl nofun⟩ acts fun site => sets site _ rfl)
  | incrementalAssign partitions =>
    exact answer (incrementalAssign partitions (fun formed => ⟨rfl, .of_descriptors formed nofun⟩)
      acts fun formed site => sets site _ ⟨formed, rfl⟩)
  | incrementalUnassign partitions =>
    exact answer (incrementalUnassign partitions
      (fun formed => ⟨rfl, .of_descriptors formed nofun⟩) acts fun site => sets site _ rfl)
  | refreshAssignments =>
    exact answer (refreshAssignments ⟨rfl, .of_bare rfl nofun⟩ acts
      fun site client opened => sets site _ ⟨client, opened, rfl⟩)
  | assignments =>
    exact answer (bind (refreshAssignments ⟨rfl, .of_bare rfl nofun⟩ acts
      fun site client opened => sets site _ ⟨client, opened, rfl⟩) fun _ _ _ => get (pure _))
  | _ => exact reassigns.elim

/-- An operation about offsets is one call at most. -/
theorem performOnOffsets {operation : Operation} (inside : StateM Site Unit)
    (onOffsets : operation.OnOffsets) (site : Site) :
    Acts (fun request => operation.Makes request ∧ request.WellFormed) resets
      (operation.perform inside).run site := by
  cases operation with
  | commit partitions mode =>
    exact answer (commit partitions mode fun formed => ⟨rfl, .of_descriptors formed nofun⟩)
  | seek tp timeout =>
    exact answer (seek tp timeout fun formed timeout =>
      ⟨⟨timeout, rfl⟩, .of_descriptors formed nofun⟩)
  | committed partitions timeout | offsetsForTimes partitions timeout =>
    exact answer (listedWithin timeout
      (fun formed timeout => ⟨⟨timeout, rfl⟩, .of_descriptors formed nofun⟩) fun _ _ => rfl)
  | position partitions | pause partitions | resume partitions =>
    exact answer (listed (fun formed => ⟨rfl, .of_descriptors formed nofun⟩) fun _ => rfl)
  | storeOffsets partitions =>
    exact answer (storeOffsets partitions fun formed => ⟨rfl, .of_descriptors formed nofun⟩)
  | storeOffset key offset leaderEpoch =>
    exact answer (storeOffset key offset leaderEpoch fun partitions formed =>
      ⟨⟨partitions, rfl⟩, .of_descriptors formed nofun⟩)
  | cachedWatermarks key => exact answer (cachedWatermarks key ⟨rfl, .of_bare rfl nofun⟩)
  | queryWatermarks key timeout =>
    exact answer (queryWatermarks key timeout fun timeout =>
      ⟨⟨timeout, rfl⟩, .of_bare rfl nofun⟩)
  | _ => exact onOffsets.elim

/-- Every operation but connecting and disconnecting is a sequence of calls, of changes of the set
of partitions and of changes of the subscription flag. It calls only what it is there to call, and
what it calls is well formed. -/
theorem performInParts {relation : Site → Site → Prop} {operation : Operation}
    (inside : StateM Site Unit) (opens : operation ≠ .connect) (closes : operation ≠ .disconnect)
    (acts : ∀ site site',
      Act (fun request => operation.Makes request ∧ request.WellFormed) False site site' →
        relation site site')
    (sets : ∀ (site : Site) (partitions : PartitionSet), operation.Sets site partitions →
      relation site { site with consumer := { site.consumer with partitions } })
    (flags : ¬operation.SparesSession → ∀ (site : Site) (subscriptionFlag : Bool),
      relation site { site with consumer := { site.consumer with subscriptionFlag } })
    (site : Site) : Does relation (operation.perform inside).run site := by
  by_cases reassigns : operation.Reassigns
  · exact performReassigning inside reassigns acts sets site
  by_cases onOffsets : operation.OnOffsets
  · exact (performOnOffsets inside onOffsets site).mono acts
  cases operation with
  | connect => exact absurd rfl opens
  | disconnect => exact absurd rfl closes
  | subscribe topics =>
    exact answer (subscribe topics (fun named => ⟨rfl, .of_named named⟩) acts (flags id))
  | unsubscribe => exact answer (unsubscribe ⟨rfl, .of_bare rfl nofun⟩ acts (flags id))
  | subscription => exact answer ((subscription ⟨rfl, .of_bare rfl nofun⟩).mono acts)
  | consume timeout =>
    exact answer ((consume timeout fun timeout =>
      ⟨⟨timeout, rfl⟩, .of_bare rfl nofun⟩).mono acts)
  | consumeMany count timeout firstOnly =>
    exact answer ((consumeMany count timeout firstOnly fun timeout =>
      ⟨⟨timeout, rfl⟩, .of_bare rfl nofun⟩).mono acts)
  | rebalanceProtocol =>
    exact lift ((rebalanceProtocol ⟨rfl, .of_bare rfl nofun⟩).mono acts) (pure _)
  | hasAssigned | name | isClosing | isConnected | metrics => exact get (pure _)
  | activate | deactivate => exact lift (Does.mono (tidy fun _ => rfl) acts) (pure _)
  | assign _ | unassign | incrementalAssign _ | incrementalUnassign _ | refreshAssignments
  | assignments => exact absurd trivial reassigns
  | _ => exact absurd trivial onOffsets

/-- Every operation but connecting and disconnecting is a sequence of acts, and calls only what it
is there to call. -/
theorem perform {operation : Operation} (inside : StateM Site Unit)
    (opens : operation ≠ .connect) (closes : operation ≠ .disconnect) (site : Site) :
    Acts operation.Makes operation.Resets (operation.perform inside).run site := by
  refine performInParts inside opens closes (fun _ _ act => act.mono (fun _ => And.left) False.elim)
    (fun site partitions sets => ?_) (fun unspared site subscriptionFlag => ?_) site
  · refine .reset partitions site.consumer.subscriptionFlag ?_
    cases operation <;> first | exact trivial | exact sets.elim
  · refine .reset site.consumer.partitions subscriptionFlag ?_
    cases operation <;> first | exact trivial | exact absurd trivial unspared | contradiction

/-- Every operation that is neither about the connection nor about the subscription is a sequence of
calls and of changes of the set of partitions. -/
theorem performApart {relation : Site → Site → Prop} {operation : Operation}
    (inside : StateM Site Unit) (apart : operation.SparesSession)
    (acts : ∀ site site', Act operation.Makes False site site' → relation site site')
    (sets : ∀ (site : Site) (partitions : PartitionSet),
      relation site { site with consumer := { site.consumer with partitions } })
    (site : Site) : Does relation (operation.perform inside).run site := by
  refine performInParts inside ?_ ?_
    (fun _ _ act => acts _ _ (act.mono (fun _ => And.left) False.elim))
    (fun site partitions _ => sets site partitions) (absurd apart) site <;>
  · rintro rfl
    exact apart

/-- The close script goes on as its operations do, and as keeping their reports does. -/
theorem runCloseScript {relation : Site → Site → Prop}
    (performs : ∀ (operation : Operation) site,
      Does relation (operation.perform (Pure.pure ())).run site)
    (keeps : ∀ (site : Site) (reports : List (Report Reply)),
      let boundary := { site.consumer.boundary with reports }
      relation site { site with consumer := { site.consumer with boundary } })
    (site : Site) : Does relation Consumer.runCloseScript site := by
  have each (operation : Operation) (site : Site) : Does relation operation.runInsideClose site :=
    andThen (performs operation site) (.single (keeps _ _))
  exact read (forM each _ site)

end Consumer.Does

end LogConsumer
