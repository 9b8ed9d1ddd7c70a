import LogConsumer.Proofs.Client.Exclusion
import LogConsumer.Proofs.Consumer.Connecting
import LogConsumer.Proofs.Consumer.Handles
import LogConsumer.Proofs.Consumer.Opening
import LogConsumer.Proofs.Consumer.Refusals
import LogConsumer.Proofs.Runs

/-!
# Revoked partitions

Once a consumer has dropped a partition, nothing of it is handed out until it is assigned again
(`silent_after_revocation`), as long as no poll finds the handle with an empty assignment and a
subscription to the partition's topic: any such poll joins the group, not just the first one, and
takes the partition back (`joined_after_revocation`).
-/
namespace LogConsumer

open Consumer Consumer.Does

variable {key : PartitionKey} {site site' : Site} {makes : ClientCall → Prop} {resets : Prop}
  {α β : Type}

/-- The open handle, if there is one, does not read the partition. -/
def Site.Excludes (site : Site) (key : PartitionKey) : Prop :=
  ∀ client, site.consumer.connection = .connected client → client.Excludes key

/-- The open handle, if there is one, neither reads the partition nor would take it by joining. -/
def Site.Spares (site : Site) (key : PartitionKey) : Prop :=
  ∀ client, site.consumer.connection = .connected client → client.Spares key

/-- The open handle would take the partitions of the topic by joining its group. -/
def Site.WouldJoin (site : Site) (topic : String) : Prop :=
  ∃ client, site.consumer.connection = .connected client ∧ client.WouldJoin topic

namespace Site

/-- What is spared is not read. -/
theorem Spares.excludes (spares : site.Spares key) : site.Excludes key :=
  fun client opened => (spares client opened).excludes

/-- What is not read and would not be joined is spared. -/
theorem Excludes.spares (excludes : site.Excludes key) (abstains : ¬site.WouldJoin key.1) :
    site.Spares key :=
  fun client opened => ⟨excludes client opened, fun joins => abstains ⟨client, opened, joins⟩⟩

/-- Only the connection matters. -/
theorem Excludes.congr (excludes : site.Excludes key)
    (same : site'.consumer.connection = site.consumer.connection) : site'.Excludes key :=
  fun client opened => excludes client (same.symm.trans opened)

/-- Where no handle is open, nothing is read. -/
theorem excludes_of_not_connected (absent : site.consumer.connection.state ≠ .connected) :
    site.Excludes key := by
  intro client opened
  rw [opened] at absent
  exact absurd rfl absent

/-- A handle that reads something does not join its group. -/
theorem not_wouldJoin {topic : String} (reads : site.consumer.connection.connected?.all
    fun client => !client.assignment.isEmpty) : ¬site.WouldJoin topic := by
  rintro ⟨client, opened, nothing, _⟩
  rw [opened] at reads
  simp [Connection.connected?, nothing] at reads

/-- A handle that has acted and does not read the partition. -/
theorem excludes_linked {link : Link} (excludes : link.client.Excludes key) :
    (site.linked link).Excludes key := by
  intro client opened
  change site.consumer.connection.update link.client = .connected client at opened
  cases state : site.consumer.connection with
  | connected present =>
    rw [state] at opened
    cases opened
    exact excludes
  | disconnected | closing present =>
    rw [state] at opened
    cases opened

end Site

/-- An act that neither names the partition nor polls does not have it read. -/
theorem excludes_of_act
    (spares : ∀ request, makes request → ¬request.Places key ∧ ∀ timeout, request ≠ .poll timeout)
    (act : Act makes resets site site') (excludes : site.Excludes key) : site'.Excludes key := by
  cases act with
  | tidy same => exact excludes.congr (congrArg Core.connection same)
  | reset partitions subscriptionFlag may => exact excludes.congr rfl
  | told admits may => exact excludes.congr rfl
  | @reached client request admits may =>
    obtain ⟨places, polls⟩ := spares request may
    rcases admits with opened | ⟨closing, _⟩
    · exact Site.excludes_linked (ClientCall.excludes_perform places polls (excludes client opened))
    · apply Site.excludes_of_not_connected
      change (site.consumer.connection.update _).state ≠ .connected
      rw [closing]
      exact nofun

/-- A sequence of such acts does not have the partition read. -/
theorem excludes_of_acts {action : StateM Site α} (acts : Acts makes resets action site)
    (spares : ∀ request, makes request → ¬request.Places key ∧ ∀ timeout, request ≠ .poll timeout)
    (excludes : site.Excludes key) : (action site).2.Excludes key := by
  have kept : Does (fun site site' => site.Excludes key → site'.Excludes key) action site :=
    acts.mono fun _ _ => excludes_of_act spares
  exact kept.carries excludes

/-- A poll of the consume loop goes on sparing a partition that is spared. -/
theorem spares_of_act (concrete : 0 ≤ key.2)
    (polls : ∀ request, makes request → ∃ timeout, request = .poll timeout)
    (act : Act makes resets site site') (spares : site.Spares key) : site'.Spares key := by
  cases act with
  | tidy same =>
    intro client opened
    exact spares client ((congrArg Core.connection same).symm.trans opened)
  | reset partitions subscriptionFlag may => exact spares
  | told admits may => exact spares
  | @reached client request admits may =>
    obtain ⟨timeout, rfl⟩ := polls request may
    rcases admits with present | ⟨_, release⟩
    · intro other opened
      have before : (⟨client, site.cluster⟩ : Link).client.Spares key := spares client present
      obtain ⟨_, polled⟩ := Client.spares_poll concrete timeout before
      change site.consumer.connection.update _ = .connected other at opened
      rw [present] at opened
      cases opened
      exact polled
    · exact release.elim

/-- A consume hands out nothing of a partition that is spared, and goes on sparing it. -/
theorem consume_spares (concrete : 0 ≤ key.2) (spares : site.Spares key) (timeout : Nat) :
    (∀ message, ((Consumer.consume timeout).run site).1 = .ok message →
      message.topicPartition.key ≠ key) ∧
    ((Consumer.consume timeout).run site).2.Spares key := by
  obtain ⟨client, opened, _⟩ | ⟨absent, refused⟩ := openHandle_cases site
  · have holds : site.Holds ⟨client, site.cluster⟩ := ⟨opened, rfl⟩
    have before : (⟨client, site.cluster⟩ : Link).client.Spares key := spares client opened
    obtain ⟨other, still⟩ := Client.spares_poll concrete
      (site.consumer.config.clampTimeout timeout) before
    obtain ⟨site', consumed, reached⟩ := consume_run holds timeout
    generalize Client.poll (site.consumer.config.clampTimeout timeout) ⟨client, site.cluster⟩ =
      polled at other still consumed reached
    rw [consumed]
    constructor
    · intro message answered
      obtain ⟨rfl, _⟩ := Outcome.eq_of_ofMessage answered
      exact other
    · intro present reopened
      have same := Connection.connected.inj (reached.opened.symm.trans reopened)
      rw [← same]
      exact still
  · have failed : (Consumer.consume timeout).run site = (.error .notConnected, site) :=
      run_bind_error (run_bind_error refused)
    rw [failed]
    refine ⟨fun message answered => ?_, spares⟩
    contradiction

/-- The partitions of the records and of the ends that were gathered. -/
def Batch.keys (batch : Batch) : List PartitionKey :=
  batch.messages.map (fun message => message.topicPartition.key) ++
    batch.endedPartitions.map TopicPartition.key

/-- What was gathered last, be it to go on with or to hand out, is nothing of the partition. -/
def Gathered.Excludes (key : PartitionKey) : Gathered → Prop
  | .going gathering => key ∉ gathering.batch.keys
  | .ended result => ∀ batch, result = .ok batch → key ∉ batch.keys

/-- A gathering without anything of the partition stays so with the outcome of a poll that is
nothing of it. -/
theorem Gathering.receive_excludes {gathering : Gathering} (next : Option Nat) {outcome : Outcome}
    (clean : key ∉ gathering.batch.keys)
    (other : ∀ message, outcome = .ok message → message.topicPartition.key ≠ key) :
    (gathering.receive next outcome).Excludes key := by
  have kept (batch : Batch) (same : (Except.ok gathering.batch : Except ConsumerError Batch) =
      .ok batch) : key ∉ batch.keys := by
    cases same
    exact clean
  cases outcome with
  | error error =>
    unfold receive
    dsimp only
    split
    · exact nofun
    · exact kept
  | ok message =>
    have apart := other message rfl
    unfold receive
    dsimp only
    split
    · exact kept
    · change key ∉ Batch.keys _
      split
      · simpa [Batch.keys, apart.symm] using clean
      · simpa [Batch.keys, apart.symm] using clean

/-- A bounded consume hands out nothing of a partition that is spared, and goes on sparing it. -/
theorem gather_spares (concrete : 0 ≤ key.2) (count : Nat) (next : Option Nat) (limit : Nat)
    {gathering : Gathering} (clean : key ∉ gathering.batch.keys) (spares : site.Spares key) :
    (∀ batch, (Consumer.gather count next limit gathering site).1 = .ok batch →
      key ∉ batch.keys) ∧
    (Consumer.gather count next limit gathering site).2.Spares key := by
  have kept (batch : Batch) (same : (Except.ok gathering.batch : Except ConsumerError Batch) =
      .ok batch) : key ∉ batch.keys := by
    cases same
    exact clean
  induction limit generalizing gathering site with
  | zero => exact ⟨kept, spares⟩
  | succ limit ih =>
    unfold Consumer.gather
    split
    · exact ⟨kept, spares⟩
    · obtain ⟨other, still⟩ := consume_spares concrete spares gathering.timeout
      have received := Gathering.receive_excludes next clean other
      rw [run_then]
      cases result : gathering.receive next ((Consumer.consume gathering.timeout).run site).1 with
      | going longer =>
        rw [result] at received
        apply ih received still
        intro batch same
        cases same
        exact received
      | ended outcome =>
        rw [result] at received
        exact ⟨received, still⟩

/-- A bounded consume as a whole hands out nothing of a partition that is spared either. -/
theorem consumeMany_spares (concrete : 0 ≤ key.2) (spares : site.Spares key) (count timeout : Nat)
    (firstOnly : Bool) :
    (∀ batch, ((Consumer.consumeMany count timeout firstOnly).run site).1 = .ok batch →
      key ∉ batch.keys) ∧
    ((Consumer.consumeMany count timeout firstOnly).run site).2.Spares key := by
  have clean : key ∉ ({ timeout } : Gathering).batch.keys := List.not_mem_nil
  exact gather_spares concrete count _ _ clean spares

namespace Operation

/-- The operation names the partition to be read. -/
def Places (key : PartitionKey) : Operation → Prop
  | .assign partitions | .incrementalAssign partitions => key ∈ partitions.map TopicPartition.key
  | _ => False

/-- The operation drops the partition. -/
def Revokes (key : PartitionKey) : Operation → Prop
  | .unassign => True
  | .incrementalUnassign partitions => key ∈ partitions.map TopicPartition.key
  | _ => False

/-- An operation that neither names the partition nor consumes makes no such call. -/
theorem spares_of_makes {operation : Operation} (places : ¬operation.Places key)
    (consumes : ¬operation.Consumes) {request : ClientCall} (made : operation.Makes request) :
    ¬request.Places key ∧ ∀ timeout, request ≠ .poll timeout := by
  cases operation with
  | consume | consumeMany => exact absurd trivial consumes
  | assign partitions | incrementalAssign partitions =>
    cases made
    exact ⟨places, nofun⟩
  | connect =>
    rcases made with rfl | ⟨_, rfl⟩
    · exact ⟨nofun, nofun⟩
    · exact ⟨nofun, nofun⟩
  | seek | committed | storeOffset | offsetsForTimes | queryWatermarks =>
    obtain ⟨_, rfl⟩ := made
    exact ⟨nofun, nofun⟩
  | hasAssigned | name | isClosing | isConnected | activate | deactivate | metrics => cases made
  | _ =>
    cases made
    exact ⟨nofun, nofun⟩

end Operation

/-- Where the handle refuses a call without a change and nothing after an accepted one can fail, an
operation that fails does not have the partition read. -/
theorem excludes_of_refusal {client : Client} {request : ClientCall}
    {primitive : Client.Action α} {rest : α → Action β}
    (opened : site.consumer.connection = .connected client) (excludes : site.Excludes key)
    (unchanged : ∀ error, (primitive.run ⟨client, site.cluster⟩).1 = .error error →
      (primitive.run ⟨client, site.cluster⟩).2.client = client)
    (succeeds : ∀ answer site, ((rest answer).run site).1.toBool = true)
    (failed : ((Consumer.call client request primitive >>= rest).run site).1.toBool = false) :
    ((Consumer.call client request primitive >>= rest).run site).2.Excludes key := by
  obtain ⟨error, refused, result⟩ | ⟨answer, _, result⟩ :=
    call_cases client request primitive rest site
  · rw [result]
    apply Site.excludes_linked
    rw [unchanged error refused]
    exact excludes client opened
  · rw [result, succeeds] at failed
    contradiction

/-- Where such a call is made on the open handle once the partitions that are asked for are found to
be well formed, an operation that fails does not have the partition read. -/
theorem excludes_of_openCall {partitions : List TopicPartition} {request : ClientCall}
    {primitive : Client.Action α} {rest : Client → α → Action β} (excludes : site.Excludes key)
    (unchanged : ∀ link error, (primitive.run link).1 = .error error →
      (primitive.run link).2.client = link.client)
    (succeeds : ∀ client answer site, ((rest client answer).run site).1.toBool = true)
    (failed : ((do
      let client ← Consumer.openHandle
      requireWellFormed partitions
      Consumer.call client request primitive >>= rest client : Action β).run site).1.toBool =
        false) :
    ((do
      let client ← Consumer.openHandle
      requireWellFormed partitions
      Consumer.call client request primitive >>= rest client : Action β).run site).2.Excludes
        key := by
  obtain ⟨client, opened, passed⟩ | ⟨_, refused⟩ := openHandle_cases site
  · rw [run_bind_ok passed] at failed ⊢
    obtain ⟨_, formed⟩ | ⟨_, _, malformed⟩ := requireWellFormed_cases partitions site
    · rw [run_bind_ok formed] at failed ⊢
      exact excludes_of_refusal opened excludes (unchanged _) (succeeds client) failed
    · rw [run_bind_error malformed]
      exact excludes
  · rw [run_bind_error refused]
    exact excludes

/-- An assignment that fails does not have the partition read. -/
theorem assign_excludes (partitions : List TopicPartition) (excludes : site.Excludes key)
    (failed : ((Consumer.assign partitions).run site).1.toBool = false) :
    ((Consumer.assign partitions).run site).2.Excludes key := by
  refine excludes_of_openCall excludes (fun link error refused => ?_) (fun _ _ _ => rfl) failed
  obtain ⟨_, _, rejected⟩ | ⟨_, accepted⟩ := Client.assign_cases partitions link
  · rw [rejected]
    rfl
  · rw [accepted] at refused
    contradiction

/-- An addition to the assignment that fails does not have the partition read. -/
theorem incrementalAssign_excludes (partitions : List TopicPartition)
    (excludes : site.Excludes key)
    (failed : ((Consumer.incrementalAssign partitions).run site).1.toBool = false) :
    ((Consumer.incrementalAssign partitions).run site).2.Excludes key := by
  refine excludes_of_openCall excludes (fun link error refused => ?_) (fun _ _ _ => rfl) failed
  obtain ⟨_, rejected⟩ | ⟨_, _, accepted⟩ := Client.incrementalAssign_cases partitions link
  · rw [rejected]
    rfl
  · rw [accepted] at refused
    contradiction

/-- A fresh handle reads nothing. -/
theorem connect_excludes (excludes : site.Excludes key) :
    (Consumer.connect.run site).2.Excludes key := by
  cases state : site.consumer.connection.state with
  | connected =>
    rw [connect_connected state]
    exact excludes
  | closing =>
    rw [connect_closing state]
    exact excludes.congr rfl
  | disconnected =>
    obtain ⟨_, _, result⟩ | ⟨_, _, _, result⟩ | ⟨_, _, done, _⟩ := connect_disconnected state
    · rw [result]
      exact excludes.congr rfl
    · rw [result]
      exact excludes.congr rfl
    · have vacant := Connection.eq_disconnected state
      obtain ⟨client, _, _, keys, holds⟩ := connect_holds vacant (Prod.ext done rfl)
      intro other opened
      have same : client = other := Connection.connected.inj (holds.opened.symm.trans opened)
      rw [← same]
      have nothing := (Client.ownKeys?_eq_some.mp keys).2
      exact Client.excludes_of_nil (List.map_eq_nil_iff.mp nothing)

/-- A handle that has been let go reads nothing. -/
theorem disconnect_excludes (inside : StateM Site Unit) (excludes : site.Excludes key) :
    ((Consumer.disconnect inside).run site).2.Excludes key := by
  have stops : Acts (fun _ => False) False
      (Consumer.stopLoop site.consumer.config.loopStopTimeout false).run site := stopLoop _ _ site
  have still := excludes_of_acts stops (fun _ never => never.elim) excludes
  obtain stopped | ⟨_, client, _, shut⟩ := disconnect_branches inside site
  · rw [stopped]
    exact still
  · have gone (closing : Site) : ((letGo client).run closing).2.consumer.connection =
        ((releaseHandle client).run closing).2.consumer.connection :=
      @view_of_letGo _ (fun site => site.consumer.connection)
        (fun _ _ same => congrArg Core.connection same) client closing
    apply Site.excludes_of_not_connected
    rw [shut, gone]
    exact nofun

/-- The operation succeeds in having the partition read. -/
def Operation.Assigns (key : PartitionKey) (inside : StateM Site Unit) (site : Site)
    (operation : Operation) : Prop :=
  operation.Places key ∧ ((operation.perform inside).run site).1.toBool = true

/-- The partitions of the records and of the ends that a consume or a bounded consume hands out. An
empty poll hands out a message that names no concrete partition. -/
def Operation.returned (site : Site) : Operation → List PartitionKey
  | .consume timeout =>
    match ((Consumer.consume timeout).run site).1 with
    | .ok message => [message.topicPartition.key]
    | .error _ => []
  | .consumeMany count timeout firstOnly =>
    match ((Consumer.consumeMany count timeout firstOnly).run site).1 with
    | .ok batch => batch.keys
    | .error _ => []
  | _ => []

/-- Nothing of a partition that is spared is handed out. -/
theorem returned_spares (concrete : 0 ≤ key.2) {operation : Operation}
    (spares : operation.Consumes → site.Spares key) : key ∉ operation.returned site := by
  cases operation with
  | consume timeout =>
    obtain ⟨other, _⟩ := consume_spares concrete (spares trivial) timeout
    unfold Operation.returned
    dsimp only
    split
    · rename_i message answered
      have apart := other message answered
      simp [apart.symm]
    · exact List.not_mem_nil
  | consumeMany count timeout firstOnly =>
    obtain ⟨other, _⟩ := consumeMany_spares concrete (spares trivial) count timeout firstOnly
    unfold Operation.returned
    dsimp only
    split
    · rename_i batch answered
      exact other batch answered
    · exact List.not_mem_nil
  | _ => exact List.not_mem_nil

/-- What is not read after an action is not read after an operation that answers with what it
gives. -/
theorem excludes_of_answer {action : Action α} {reply : α → Reply}
    (excludes : (action.run site).2.Excludes key) :
    ((do pure (reply (← action)) : Action Reply).run site).2.Excludes key := by
  rwa [run_map]

/-- Where an operation that answers without a value does not succeed, its action fails. -/
theorem toBool_of_answer {action : Action Unit}
    (failed : ¬((do pure ((fun _ => Reply.done) (← action)) : Action Reply).run site).1.toBool =
      true) : (action.run site).1.toBool = false := by
  rw [run_map] at failed
  cases outcome : (action.run site).1 with
  | error error => rfl
  | ok answer =>
    rw [outcome] at failed
    exact absurd rfl failed

/-- Of all operations, only an assignment of a partition that is not read has it read, if those that
poll would not join the group for it. -/
theorem operate_excludes (concrete : 0 ≤ key.2) {operation : Operation}
    (inside : StateM Site Unit) (excludes : site.Excludes key)
    (spares : operation.Consumes → site.Spares key)
    (unassigned : ¬operation.Assigns key inside site) :
    ((operation.perform inside).run site).2.Excludes key := by
  have byActs (opens : operation ≠ .connect) (closes : operation ≠ .disconnect)
      (consumes : ¬operation.Consumes) (places : ¬operation.Places key) :
      ((operation.perform inside).run site).2.Excludes key :=
    excludes_of_acts (perform inside opens closes site)
      (fun _ => Operation.spares_of_makes places consumes) excludes
  cases operation with
  | connect => exact excludes_of_answer (connect_excludes excludes)
  | disconnect => exact excludes_of_answer (disconnect_excludes inside excludes)
  | consume timeout =>
    exact excludes_of_answer (consume_spares concrete (spares trivial) timeout).2.excludes
  | consumeMany count timeout firstOnly =>
    have still := (consumeMany_spares concrete (spares trivial) count timeout firstOnly).2
    exact excludes_of_answer still.excludes
  | assign partitions =>
    by_cases places : key ∈ partitions.map TopicPartition.key
    · have failed := toBool_of_answer fun succeeds => unassigned ⟨places, succeeds⟩
      exact excludes_of_answer (assign_excludes partitions excludes failed)
    · exact byActs nofun nofun id places
  | incrementalAssign partitions =>
    by_cases places : key ∈ partitions.map TopicPartition.key
    · have failed := toBool_of_answer fun succeeds => unassigned ⟨places, succeeds⟩
      exact excludes_of_answer (incrementalAssign_excludes partitions excludes failed)
    · exact byActs nofun nofun id places
  | _ => exact byActs nofun nofun id id

/-- What happens is an operation that succeeds in having the partition read. -/
def Occurrence.Assigns (key : PartitionKey) (site : Site) : Occurrence → Prop
  | (.operate operation, inside) => operation.Assigns key inside.perform site
  | _ => False

/-- The partitions of what is handed out when it happens. -/
def Occurrence.returned (site : Site) : Occurrence → List PartitionKey
  | (.operate operation, _) => operation.returned site
  | _ => []

/-- What happens may poll the open handle. -/
def Moment.Polls : Moment → Prop
  | .operate operation => operation.Consumes
  | .advanceLoop _ => True
  | _ => False

/-- What happens leaves a partition dropped: it is not assigned, and no poll finds the handle with
an empty assignment and a subscription to the topic. -/
structure Occurrence.LeavesDropped (key : PartitionKey) (site : Site) (occurrence : Occurrence) :
    Prop where
  /-- The partition is not assigned. -/
  unassigned : ¬occurrence.Assigns key site
  /-- No poll joins the group for the topic. -/
  abstains : occurrence.1.Polls → ¬site.WouldJoin key.1

/-- What leaves a partition dropped hands out nothing of it, and does not have it read. -/
theorem next_excludes (concrete : 0 ≤ key.2) {occurrence : Occurrence}
    (excludes : site.Excludes key) (dropped : occurrence.LeavesDropped key site) :
    key ∉ occurrence.returned site ∧ (occurrence.next site).Excludes key := by
  obtain ⟨moment, inside⟩ := occurrence
  have spares (polls : moment.Polls) : site.Spares key := excludes.spares (dropped.abstains polls)
  have books {answer : Type} {action : StateM Site answer}
      (acts : Acts (fun _ => False) False action site) : (action site).2.Excludes key :=
    excludes_of_acts acts (fun _ never => never.elim) excludes
  cases moment with
  | operate operation =>
    exact ⟨returned_spares concrete spares,
      operate_excludes concrete inside.perform excludes spares dropped.unassigned⟩
  | startLoop timeout sleepDelay =>
    exact ⟨List.not_mem_nil, books (consumeLoop timeout sleepDelay site)⟩
  | advanceLoop workerFree =>
    have acts : Acts (fun request => ∃ timeout, request = .poll timeout) False
        (Consumer.advanceLoop workerFree) site :=
      advanceLoop workerFree (fun timeout => ⟨timeout, rfl⟩) site
    have kept : Does (fun site site' => site.Spares key → site'.Spares key)
        (Consumer.advanceLoop workerFree) site :=
      acts.mono fun _ _ => spares_of_act concrete fun _ polls => polls
    have still := kept.carries (spares trivial)
    exact ⟨List.not_mem_nil, still.excludes⟩
  | stopLoop wait reportsPanic =>
    exact ⟨List.not_mem_nil, books (stopLoop wait reportsPanic site)⟩
  | surroundings boundary others created =>
    exact ⟨List.not_mem_nil, excludes.congr rfl⟩

/-- A call that is accepted only by leaving the partition unread leaves it unread at the site. -/
theorem excludes_of_accepted {client : Client} {request : ClientCall}
    {primitive : Client.Action α} {answer : α}
    (drops : ∀ answer, (primitive.run ⟨client, site.cluster⟩).1 = .ok answer →
      (primitive.run ⟨client, site.cluster⟩).2.client.Excludes key)
    (accepted : (Consumer.call client request primitive).run site = (.ok answer, site')) :
    site'.Excludes key := by
  rw [call_run] at accepted
  obtain ⟨outcome, rfl⟩ := Prod.mk.inj accepted
  apply Site.excludes_linked
  cases answered : (primitive.run ⟨client, site.cluster⟩).1 with
  | ok answer => exact drops answer answered
  | error error =>
    rw [answered] at outcome
    contradiction

/-- Asking for any handle does not change the site. -/
theorem site_of_anyHandle {client : Client} (passed : anyHandle.run site = (.ok client, site')) :
    site' = site := by
  obtain ⟨_, _, result⟩ | ⟨_, result⟩ := anyHandle_cases site
  · rw [result] at passed
    exact (Prod.mk.inj passed).2.symm
  · rw [result] at passed
    cases passed

/-- Asking for well-formed partitions does not change the site. -/
theorem site_of_requireWellFormed {partitions : List TopicPartition}
    (passed : (requireWellFormed partitions).run site = (.ok (), site')) : site' = site := by
  obtain ⟨_, result⟩ | ⟨_, _, result⟩ := requireWellFormed_cases partitions site
  · rw [result] at passed
    exact (Prod.mk.inj passed).2.symm
  · rw [result] at passed
    cases passed

/-- Dropping the assignment, where it succeeds, leaves every partition unread. -/
theorem unassign_excludes (done : Consumer.unassign.run site = (.ok (), site')) :
    site'.Excludes key := by
  obtain ⟨client, between, passed, calls⟩ := run_bind_eq_ok done
  obtain rfl := site_of_anyHandle passed
  obtain ⟨_, called, accepted, taken⟩ := run_bind_eq_ok calls
  cases taken
  apply Site.Excludes.congr _ rfl
  apply excludes_of_accepted _ accepted
  intro _ answered
  obtain ⟨error, refused⟩ | result := Client.unassign_cases ⟨client, between.cluster⟩
  · rw [refused] at answered
    contradiction
  · rw [result]
    exact Client.excludes_of_nil rfl

/-- Taking partitions from the assignment, where it succeeds, leaves them unread. -/
theorem incrementalUnassign_excludes {partitions : List TopicPartition}
    (among : key ∈ partitions.map TopicPartition.key)
    (done : (Consumer.incrementalUnassign partitions).run site = (.ok (), site')) :
    site'.Excludes key := by
  obtain ⟨client, between, passed, checks⟩ := run_bind_eq_ok done
  obtain rfl := site_of_anyHandle passed
  obtain ⟨_, formed, wellFormed, calls⟩ := run_bind_eq_ok checks
  obtain rfl := site_of_requireWellFormed wellFormed
  obtain ⟨_, called, accepted, taken⟩ := run_bind_eq_ok calls
  cases taken
  apply Site.Excludes.congr _ rfl
  apply excludes_of_accepted _ accepted
  intro _ answered
  obtain ⟨error, refused⟩ | result :=
    Client.incrementalUnassign_cases partitions ⟨client, formed.cluster⟩
  · rw [refused] at answered
    contradiction
  · rw [result]
    intro inside
    obtain ⟨entry, remains, own⟩ := List.mem_map.mp inside
    obtain ⟨tp, listed, same⟩ := List.mem_map.mp among
    have kept := (List.mem_filter.mp remains).2
    have named : (partitions.any fun tp => entry.key = tp.key) = true := by
      rw [List.any_eq_true]
      exact ⟨tp, listed, by simp [own, same]⟩
    rw [named] at kept
    contradiction

/-- An operation that succeeds in dropping the partition leaves it unread. -/
theorem revoke_excludes {operation : Operation} (revokes : operation.Revokes key)
    {inside : StateM Site Unit} {reply : Reply}
    (revoked : (operation.perform inside).run site = (.ok reply, site')) :
    site'.Excludes key := by
  cases operation with
  | unassign =>
    obtain ⟨_, final, done, answered⟩ := run_bind_eq_ok revoked
    cases answered
    exact unassign_excludes done
  | incrementalUnassign partitions =>
    obtain ⟨_, final, done, answered⟩ := run_bind_eq_ok revoked
    cases answered
    exact incrementalUnassign_excludes revokes done
  | _ => exact revokes.elim

/-- Over a course that leaves a partition dropped nothing of it is handed out. -/
theorem collected_excludes (concrete : 0 ≤ key.2) {later : List Occurrence}
    (excludes : site.Excludes key)
    (dropped : Throughout Occurrence.next (Occurrence.LeavesDropped key) site later) :
    key ∉ collected Occurrence.next Occurrence.returned site later := by
  induction later generalizing site with
  | nil => exact List.not_mem_nil
  | cons occurrence later ih =>
    obtain ⟨first, rest⟩ := dropped
    obtain ⟨silent, still⟩ := next_excludes concrete excludes first
    have after := ih still rest
    rw [collected, List.mem_append]
    exact not_or.mpr ⟨silent, after⟩

/-- Once a consumer has succeeded in dropping a concrete partition, no consume and no bounded
consume hands out a record or the end of it as long as what happens leaves it dropped. -/
theorem silent_after_revocation (concrete : 0 ≤ key.2) {operation : Operation}
    (revokes : operation.Revokes key) {inside : StateM Site Unit} {reply : Reply}
    (revoked : ((operation.perform inside).run site).1 = .ok reply) {later : List Occurrence}
    (dropped : Throughout Occurrence.next (Occurrence.LeavesDropped key)
      ((operation.perform inside).run site).2 later) :
    key ∉ collected Occurrence.next Occurrence.returned
      ((operation.perform inside).run site).2 later :=
  collected_excludes concrete (revoke_excludes revokes (Prod.ext revoked rfl)) dropped

/-- A partition that is dropped beside another one of its topic stays dropped, also for a consumer
that subscribes to the topic. -/
theorem silent_beside_another :
    let record : Record := { key := none, payload := [1], timestamp := 0 }
    let cluster := (Cluster.produce (Cluster.createTopic {} "log" 2) ("log", 0) record).2
    let site := course { consumer := { config := {} }, cluster }
      [(.operate .connect, .script), (.operate (.subscribe ["log"]), .script),
        (.operate (.consume 0), .script)]
    let revokes : Operation := .incrementalUnassign [{ topic := "log", partition := 0 }]
    let later : List Occurrence :=
      [(.operate (.consume 0), .script), (.operate (.consumeMany 3 0 true), .script)]
    let revoked := revokes.run.run site
    revoked.1 = .ok .done ∧
      ("log", 0) ∉ collected Occurrence.next Occurrence.returned revoked.2 later := by
  intro record cluster site revokes later revoked
  have done : revoked.1 = .ok .done := by decide +kernel
  have named : revokes.Revokes ("log", 0) := by
    simp [revokes, Operation.Revokes, TopicPartition.key]
  have dropped : Throughout Occurrence.next (Occurrence.LeavesDropped ("log", 0))
      revoked.2 later := by
    refine ⟨⟨fun assigns => assigns.1, fun _ => ?_⟩, ⟨fun assigns => assigns.1, fun _ => ?_⟩,
      trivial⟩
    · apply Site.not_wouldJoin
      decide +kernel
    · apply Site.not_wouldJoin
      decide +kernel
  exact ⟨done, silent_after_revocation (by decide) named done dropped⟩

/-- The last partitions that are dropped come back with the next poll of a consumer that subscribes
to their topic, though it has polled before and neither assigns nor subscribes again. -/
theorem joined_after_revocation :
    let record : Record := { key := none, payload := [1], timestamp := 0 }
    let cluster := (Cluster.produce (Cluster.createTopic {} "log" 1) ("log", 0) record).2
    let site := course { consumer := { config := {} }, cluster }
      [(.operate .connect, .script), (.operate (.subscribe ["log"]), .script),
        (.operate (.consume 0), .script)]
    let revoked := Operation.unassign.run.run site
    revoked.1 = .ok .done ∧
      collected Occurrence.next Occurrence.returned revoked.2
        [(.operate (.consume 0), .script)] = [("log", 0)] := by
  decide +kernel

end LogConsumer
