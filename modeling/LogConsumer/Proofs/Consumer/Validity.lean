import LogConsumer.Proofs.Consumer.Counting
import LogConsumer.Proofs.PartitionSets

/-!
# Validity of a consumer

Whatever a consumer hands to its handle or keeps as assigned was checked before, or came from a
valid handle. So a valid consumer on a valid cluster (`Site.Valid`) stays valid, and nothing but
well-formed calls reaches its handles (`Site.Orderly`), whatever is asked of it
(`Operation.run_guards`). What it consumes, unless that is scripted, is at an absolute offset
(`located_consume`, `located_consumeMany`).
-/
namespace LogConsumer

open Consumer Consumer.Does

variable {site between site' : Site} {client : Client} {makes : ClientCall → Prop} {α : Type}

/-- A consumer that misleads nobody. -/
structure Consumer.Valid (consumer : Consumer) : Prop where
  /-- The handle, be it open or being closed, is valid. -/
  handle : ∀ client, consumer.connection.handle? = some client → client.Valid
  /-- Every partition believed to be assigned is well formed. -/
  entries : ∀ tp ∈ consumer.partitions.entries, tp.WellFormed
  /-- Every call on a handle that is traced is well formed. -/
  calls : ∀ traced ∈ consumer.boundary.calls, ∀ request, traced.call = .onHandle request →
    request.WellFormed

/-- A consumer and a cluster that mislead nobody. -/
structure Site.Valid (site : Site) : Prop where
  /-- The consumer is valid. -/
  consumer : site.consumer.Valid
  /-- The cluster is valid. -/
  cluster : site.cluster.Valid

/-- A poll that does not fail as scripted tells records and ends of partitions at absolute
offsets. -/
def Link.Locates (link : Link) (request : ClientCall) : Prop :=
  ∀ timeout, request = .poll timeout → (link.cluster.takeFault .poll).1 = none →
    let message := (Client.poll timeout link).1.message
    message.hasData = true ∨ message.isEndOfPartition = true → message.Located

/-- One thing that happens to a consumer in good order. -/
inductive Site.Orderly : Site → Site → Prop where
  /-- The handle performs a well-formed call; a poll tells absolute offsets. -/
  | performs {site : Site} {client : Client} {request : ClientCall}
    (held : site.consumer.connection.handle? = some client) (formed : request.WellFormed)
    (locates : Link.Locates ⟨client, site.cluster⟩ request) :
    Orderly site (site.linked (request.perform ⟨client, site.cluster⟩).2)
  /-- No handle is called: the handle stays as it is, and so does the cluster. -/
  | aside {site : Site} {consumer : Consumer}
    (same : consumer.connection.handle? = site.consumer.connection.handle?) :
    Orderly site { site with consumer }
  /-- A handle that was just created, and reads nothing yet, is installed where there is none. -/
  | installs {site : Site} {consumer : Consumer} {client : Client}
    (vacant : site.consumer.connection = .disconnected) (nothing : client.assignment = [])
    (opened : consumer.connection = .connected client) (created : Nat) :
    Orderly site { consumer, cluster := { site.cluster with created } }
  /-- The handle is let go. -/
  | leaves {site : Site} {consumer : Consumer} (vacant : consumer.connection = .disconnected) :
    Orderly site { site with consumer }
  /-- Others use the cluster. -/
  | surrounded {site : Site} (cluster : Cluster) : Orderly site { site with cluster }

/-- Between two sites a valid consumer stays valid, and everything happens in good order. -/
def Site.Guards (site site' : Site) : Prop :=
  site.Valid → site'.Valid ∧ Relation.ReflTransGen Site.Orderly site site'

namespace Site.Guards

/-- Where nothing happens everything is in good order. -/
theorem refl : site.Guards site :=
  fun valid => ⟨valid, .refl⟩

/-- What goes in good order before and after does so as a whole. -/
theorem trans (before : site.Guards between) (after : between.Guards site') :
    site.Guards site' := by
  intro valid
  obtain ⟨still, first⟩ := before valid
  obtain ⟨last, later⟩ := after still
  exact ⟨last, first.trans later⟩

/-- What goes in good order step by step does so as a whole. -/
theorem of_does {action : StateM Site α} (does : Does Site.Guards action site) :
    site.Guards (action site).2 :=
  does.whole (fun _ => refl) fun _ _ _ => trans

end Site.Guards

/-- A consumer that shows the same to its handle stays valid. -/
theorem Consumer.Valid.congr {consumer consumer' : Consumer}
    (same : consumer'.core = consumer.core) (valid : consumer.Valid) : consumer'.Valid := by
  have connection : consumer'.connection = consumer.connection := congrArg Core.connection same
  have partitions : consumer'.partitions = consumer.partitions := congrArg Core.partitions same
  have calls : consumer'.boundary.calls = consumer.boundary.calls := congrArg Core.calls same
  exact ⟨connection ▸ valid.handle, partitions ▸ valid.entries, calls ▸ valid.calls⟩

namespace Site.Valid

/-- A valid consumer stays valid with another set of partitions, if all of that is well formed. -/
theorem holding (valid : site.Valid) {partitions : PartitionSet}
    (formed : ∀ tp ∈ partitions.entries, tp.WellFormed) (subscriptionFlag : Bool) :
    Site.Valid { site with consumer := { site.consumer with partitions, subscriptionFlag } } :=
  ⟨⟨valid.consumer.handle, formed, valid.consumer.calls⟩, valid.cluster⟩

/-- A valid consumer stays valid when a well-formed call is traced. -/
theorem traced (valid : site.Valid) {request : ClientCall} (formed : request.WellFormed)
    (client : Client) : (site.traced client request).Valid := by
  refine ⟨⟨valid.consumer.handle, valid.consumer.entries, fun call inside other same => ?_⟩,
    valid.cluster⟩
  obtain earlier | last := List.mem_append.mp inside
  · exact valid.consumer.calls call earlier other same
  · cases List.mem_singleton.mp last
    cases same
    exact formed

/-- The handle of a valid consumer is valid on its cluster. -/
theorem link (valid : site.Valid) (held : site.consumer.connection.handle? = some client) :
    Link.Valid ⟨client, site.cluster⟩ :=
  ⟨valid.consumer.handle client held, valid.cluster⟩

/-- A valid consumer stays valid when its handle has acted on the cluster, if the handle and the
cluster are valid then. -/
theorem linked (valid : site.Valid) {link : Link} (acted : link.Valid) :
    (site.linked link).Valid := by
  refine ⟨⟨fun client held => ?_, valid.consumer.entries, valid.consumer.calls⟩, acted.cluster⟩
  have own : client = link.client := by
    unfold Site.linked at held
    cases state : site.consumer.connection <;> rw [state] at held <;> cases held <;> rfl
  rw [own]
  exact acted.client

end Site.Valid

/-- A well-formed call on the handle keeps everything in good order. -/
theorem guards_performed {request : ClientCall}
    (held : site.consumer.connection.handle? = some client) (formed : request.WellFormed) :
    site.Guards (site.linked (request.perform ⟨client, site.cluster⟩).2) := by
  intro valid
  have link := valid.link held
  refine ⟨valid.linked (ClientCall.valid_perform formed link), .single (.performs held formed ?_)⟩
  intro timeout _ unscripted message tells
  exact Client.located_poll timeout link unscripted tells

/-- A call that passes the gate is one on the handle. -/
theorem Site.Admits.held {request : ClientCall} (admits : site.Admits client request) :
    site.consumer.connection.handle? = some client := by
  obtain opened | ⟨closing, _⟩ := admits
  · rw [opened]
    rfl
  · rw [closing]
    rfl

/-- An act that makes only well-formed calls keeps everything in good order. -/
theorem guards_of_act (formed : ∀ request, makes request → request.WellFormed)
    (act : Act makes False site site') : site.Guards site' := by
  cases act with
  | tidy same =>
    have connection := congrArg Core.connection same
    exact fun valid => ⟨⟨valid.consumer.congr same, valid.cluster⟩,
      .single (.aside (congrArg Connection.handle? connection))⟩
  | reset partitions subscriptionFlag may => exact may.elim
  | told admits may => exact fun valid => ⟨valid.traced (formed _ may) _, .single (.aside rfl)⟩
  | reached admits may => exact guards_performed admits.held (formed _ may)

/-- An action made of acts that make only well-formed calls keeps everything in good order. -/
theorem guards_of_acts {action : StateM Site α} (acts : Acts makes False action site)
    (formed : ∀ request, makes request → request.WellFormed) :
    Does Site.Guards action site :=
  acts.mono fun _ _ => guards_of_act formed

/-- An action that only keeps books keeps everything in good order. -/
theorem guards_of_books {action : StateM Site α} (books : Acts (fun _ => False) False action site) :
    Does Site.Guards action site :=
  guards_of_acts books nofun

/-- An action that only polls keeps everything in good order. -/
theorem guards_of_polls {action : StateM Site α}
    (polls : Acts (fun request => ∃ timeout, request = .poll timeout) False action site) :
    Does Site.Guards action site := by
  refine guards_of_acts polls ?_
  rintro request ⟨timeout, rfl⟩
  exact .of_bare rfl fun _ => nofun

/-- Keeping a trace of what the factory is asked or told keeps everything in good order. -/
theorem note_guards (handle : Option Nat) {call : Call}
    (other : ∀ request, call ≠ .onHandle request) : Does Site.Guards (note handle call) site := by
  refine .single fun valid => ⟨⟨⟨valid.consumer.handle, valid.consumer.entries, ?_⟩,
    valid.cluster⟩, .single (.aside rfl)⟩
  intro traced inside request same
  obtain earlier | last := List.mem_append.mp inside
  · exact valid.consumer.calls traced earlier request same
  · cases List.mem_singleton.mp last
    exact absurd same (other request)

/-- A set of partitions that an operation leaves is well formed if the site was valid before. -/
theorem wellFormed_of_sets {operation : Operation} {partitions : PartitionSet}
    (sets : operation.Sets site partitions) (valid : site.Valid) :
    ∀ tp ∈ partitions.entries, tp.WellFormed := by
  have taken {client : Client} (opened : site.consumer.connection = .connected client) :
      ∀ tp ∈ client.readPartitions, tp.WellFormed := by
    refine (valid.consumer.handle client ?_).readPartitions
    rw [opened]
    rfl
  cases operation with
  | assign partitions =>
    obtain ⟨formed, rfl⟩ := sets
    exact formed
  | unassign =>
    cases sets
    exact List.forall_mem_nil _
  | incrementalAssign partitions =>
    obtain ⟨formed, rfl⟩ := sets
    exact List.forall_mem_append.mpr ⟨valid.consumer.entries, formed⟩
  | incrementalUnassign partitions =>
    cases sets
    intro tp left
    exact valid.consumer.entries tp
      ((PartitionSet.removeMatching_sublist _ _).subset left)
  | refreshAssignments | assignments =>
    obtain ⟨client, opened, rfl⟩ := sets
    exact taken opened
  | _ => exact sets.elim

/-- Installing a handle keeps everything in good order. -/
theorem installHandle_guards (site : Site) : Does Site.Guards installHandle.run site := by
  have asks : Does Site.Guards (note none .create) site := note_guards none fun _ => nofun
  obtain ⟨_, result⟩ | ⟨_, _, _, result⟩ | ⟨vacant, _, result⟩ := installHandle_cases site
  · refine idle ?_
    rw [result]
  · unfold Does
    rw [result]
    exact asks
  · unfold Does
    rw [result]
    refine .single fun valid => ⟨⟨⟨?_, valid.consumer.entries, ?_⟩, ?_⟩,
      .single (.installs vacant rfl rfl (site.cluster.created + 1))⟩
    · intro client held
      cases held
      exact ⟨List.forall_mem_nil _, List.forall_mem_nil _⟩
    · exact (Site.Guards.of_does asks valid).1.consumer.calls
    · exact valid.cluster.congr rfl

/-- Resuming earlier partitions keeps everything in good order: what is believed to be assigned is
well formed. -/
theorem resumePrevious_guards (site : Site) :
    Does Site.Guards Consumer.resumePrevious.run site := by
  refine .single fun valid => ?_
  have acts : Acts (· = .resume site.consumer.partitions.entries) False
      Consumer.resumePrevious.run site := resumePrevious rfl
  refine Site.Guards.of_does (guards_of_acts acts fun request same => ?_) valid
  rw [same]
  exact .of_descriptors valid.consumer.entries nofun

/-- Connecting keeps everything in good order. -/
theorem connect_guards (site : Site) : Does Site.Guards Consumer.connect.run site := by
  rw [connect_eq]
  refine get (either (lift (note_guards none fun _ => nofun) ?_) (pure _))
  refine bind (guards_of_books (takeHookFault .prepare)) fun _ prepared _ => ?_
  refine bind (installHandle_guards prepared) fun installed site' result => ?_
  cases installed with
  | none => exact pure _
  | some client =>
    have named : Acts (· = .name) False (Consumer.trace client .name) site' :=
      trace (.inl (connection_of_installHandle result)) rfl
    refine lift (guards_of_acts named fun request same => ?_) ?_
    · rw [same]
      exact .of_bare rfl fun _ => nofun
    · refine lift (guards_of_books (tidy fun _ => rfl)) (lift (note_guards _ fun _ => nofun) ?_)
      refine bind (attempt (guards_of_books (takeHookFault .onConnected))) fun _ told _ => ?_
      exact bind (resumePrevious_guards told) fun _ _ _ => guards_of_books (publish _)

/-- Letting a handle go that is being closed keeps everything in good order: the close is called,
and then the handle is gone. -/
theorem letGo_guards {present : Client} (closing : site.consumer.connection = .closing present)
    (client : Client) : site.Guards ((letGo client).run site).2 := by
  have held : site.consumer.connection.handle? = some present := by
    rw [closing]
    rfl
  have bare : ClientCall.close.WellFormed := .of_bare rfl fun _ => nofun
  refine (guards_performed held bare).trans fun valid => ?_
  have released : (letGo client).run site = _ := letGo_run closing
  rw [released]
  exact ⟨⟨⟨nofun, valid.consumer.entries, valid.consumer.calls⟩, valid.cluster⟩,
    .single (.leaves rfl)⟩

/-- Disconnecting keeps everything in good order if what runs from inside the close does. -/
theorem disconnect_guards {inside : StateM Site Unit}
    (runs : ∀ site : Site, site.Guards (inside site).2) (stays : RunsInside inside) (site : Site) :
    site.Guards ((Consumer.disconnect inside).run site).2 := by
  let stopped := ((Consumer.stopLoop site.consumer.config.loopStopTimeout false).run site).2
  have stops : site.Guards stopped := .of_does (guards_of_books (stopLoop _ _ site))
  obtain unchanged | ⟨_, client, opened, shut⟩ := disconnect_branches inside site
  · rw [unchanged]
    exact stops
  · have begins : stopped.Guards (stopped.shutting client) := by
      intro valid
      have held : stopped.consumer.connection.handle? = some client := by
        rw [opened]
        rfl
      have closing : Site.Valid { stopped with
          consumer := { stopped.consumer with connection := .closing client } } := by
        refine ⟨⟨fun other same => ?_, valid.consumer.entries, valid.consumer.calls⟩,
          valid.cluster⟩
        cases same
        exact valid.consumer.handle client held
      have bare : ClientCall.close.WellFormed := .of_bare rfl fun _ => nofun
      exact ⟨closing.traced bare client, .single (.aside held.symm)⟩
    obtain ⟨present, closing⟩ : ∃ present,
        (inside (stopped.shutting client)).2.consumer.connection = .closing present := by
      have still := Life.closing_of_acts (stays (stopped.shutting client) client.serial rfl) rfl
      unfold Site.life at still
      cases state : (inside (stopped.shutting client)).2.consumer.connection with
      | closing present => exact ⟨present, rfl⟩
      | connected other | disconnected =>
        rw [state] at still
        cases still
    rw [shut]
    exact ((stops.trans begins).trans (runs _)).trans (letGo_guards closing client)

/-- Every operation keeps everything in good order if what runs from inside a close does. -/
theorem Operation.perform_guards (operation : Operation) {inside : StateM Site Unit}
    (runs : ∀ site : Site, site.Guards (inside site).2) (stays : RunsInside inside) (site : Site) :
    Does Site.Guards (operation.perform inside).run site := by
  by_cases opens : operation = .connect
  · rw [opens]
    exact answer (connect_guards site)
  · by_cases closes : operation = .disconnect
    · rw [closes]
      exact answer (.single (disconnect_guards runs stays site))
    · exact performInParts inside opens closes (fun _ _ => guards_of_act fun _ => And.right)
        (fun site partitions sets valid =>
          ⟨valid.holding (wellFormed_of_sets sets valid) _, .single (.aside rfl)⟩)
        (fun _ site subscriptionFlag valid =>
          ⟨valid.holding valid.consumer.entries subscriptionFlag, .single (.aside rfl)⟩) site

/-- The close script of the boundary keeps everything in good order. -/
theorem runCloseScript_guards (site : Site) : site.Guards (runCloseScript site).2 := by
  have nothing : RunsInside (Pure.pure ()) := fun _ _ _ => .refl
  exact .of_does (Does.runCloseScript
    (fun operation => operation.perform_guards (fun _ => .refl) nothing)
    (fun _ _ => guards_of_act (fun _ => False.elim) (.tidy rfl)) site)

/-- Whatever is asked of a consumer, everything goes in good order. -/
theorem Operation.run_guards (operation : Operation) (site : Site) :
    site.Guards (operation.run.run site).2 :=
  .of_does (operation.perform_guards runCloseScript_guards .script site)

/-- Letting the consume loop go on keeps everything in good order. -/
theorem advanceLoop_guards (workerFree : Bool) (site : Site) :
    site.Guards (Consumer.advanceLoop workerFree site).2 :=
  .of_does (guards_of_polls (advanceLoop workerFree (fun timeout => ⟨timeout, rfl⟩) site))

/-- Records at absolute offsets, and ends of partitions seen at absolute offsets. -/
structure Batch.Located (batch : Batch) : Prop where
  /-- Every record is at an absolute offset. -/
  messages : ∀ message ∈ batch.messages, message.Located
  /-- Every end of a partition was seen at an absolute offset. -/
  ends : ∀ tp ∈ batch.endedPartitions, ∃ offset, 0 ≤ offset ∧ tp.offset = .absolute offset

/-- A gathering that receives what is at an absolute offset keeps to such offsets. -/
theorem Gathering.located_receive {gathering : Gathering} {outcome : Outcome}
    (located : gathering.batch.Located)
    (told : ∀ message, outcome = .ok message → message.isTimeout = true ∨ message.Located)
    (next : Option Nat) :
    (∃ longer, gathering.receive next outcome = .going longer ∧ longer.batch.Located) ∨
    ∃ result, gathering.receive next outcome = .ended result ∧
      ∀ batch, result = .ok batch → batch.Located := by
  have whole : ∀ batch, (.ok gathering.batch : Except ConsumerError Batch) = .ok batch →
      batch.Located := by
    rintro _ ⟨⟩
    exact located
  unfold receive
  cases outcome with
  | error error =>
    dsimp only
    split
    · exact .inr ⟨_, rfl, nofun⟩
    · exact .inr ⟨_, rfl, whole⟩
  | ok message =>
    dsimp only
    by_cases empty : message.isTimeout = true
    · rw [if_pos empty]
      exact .inr ⟨_, rfl, whole⟩
    · have here := (told message rfl).resolve_left empty
      rw [if_neg empty]
      refine .inl ⟨_, rfl, ?_⟩
      by_cases ended : message.isEndOfPartition = true
      · rw [if_pos ended]
        refine ⟨located.messages, List.forall_mem_append.mpr ⟨located.ends, fun tp last => ?_⟩⟩
        rw [List.mem_singleton.mp last]
        exact ⟨message.offset, here.reached, here.told⟩
      · rw [if_neg ended]
        refine ⟨List.forall_mem_append.mpr ⟨located.messages, fun other last => ?_⟩, located.ends⟩
        rw [List.mem_singleton.mp last]
        exact here

/-- What a valid consumer consumes, unless the poll is scripted, is empty or at an absolute
offset. -/
theorem located_consume (valid : site.Valid) (timeout : Nat)
    (unscripted : (site.cluster.takeFault .poll).1 = none) {message : Message}
    (consumed : ((Consumer.consume timeout).run site).1 = .ok message) :
    message.isTimeout = true ∨ message.Located := by
  obtain ⟨_, refused⟩ | ⟨client, opened, polled⟩ := consume_cases timeout site
  · rw [refused] at consumed
    cases consumed
  · rw [polled] at consumed
    obtain ⟨same, kind⟩ := Outcome.eq_of_ofMessage consumed
    have held : site.consumer.connection.handle? = some client := by
      rw [opened]
      rfl
    have located := Client.located_poll (site.consumer.config.clampTimeout timeout)
      (valid.link held) unscripted
    rw [← same] at located kind
    obtain record | empty | ending := kind
    · exact .inr (located (.inl record))
    · exact .inl empty
    · exact .inr (located (.inr ending))

/-- A consume leaves polls that are let through so. -/
theorem letsThrough_consume {primitive : Primitive} (lets : site.cluster.LetsThrough primitive)
    (timeout : Nat) :
    ((Consumer.consume timeout).run site).2.cluster.LetsThrough primitive := by
  obtain ⟨_, refused⟩ | ⟨client, _, polled⟩ := consume_cases timeout site
  · rw [refused]
    exact lets
  · rw [polled]
    exact Client.letsThrough_poll lets _

/-- A consume keeps everything in good order. -/
theorem consume_guards (timeout : Nat) (site : Site) :
    site.Guards ((Consumer.consume timeout).run site).2 :=
  .of_does (guards_of_polls (consume timeout fun timeout => ⟨timeout, rfl⟩))

/-- What a valid consumer gathers, where no poll is scripted, is at absolute offsets. -/
theorem located_gather {count : Nat} {next : Option Nat} {limit : Nat} {gathering : Gathering}
    (valid : site.Valid) (lets : site.cluster.LetsThrough .poll)
    (located : gathering.batch.Located) {batch : Batch}
    (gathered : (Consumer.gather count next limit gathering site).1 = .ok batch) :
    batch.Located := by
  induction limit generalizing gathering site with
  | zero =>
    cases gathered
    exact located
  | succ limit ih =>
    unfold Consumer.gather at gathered
    split at gathered
    · cases gathered
      exact located
    · let consumed := (Consumer.consume gathering.timeout).run site
      have told (message : Message) (answered : consumed.1 = .ok message) :
          message.isTimeout = true ∨ message.Located :=
        located_consume valid gathering.timeout lets.unscripted answered
      rw [run_then] at gathered
      obtain ⟨longer, receives, still⟩ | ⟨result, ends, sound⟩ :=
        Gathering.located_receive located told next
      · rw [receives] at gathered
        exact ih (consume_guards gathering.timeout site valid).1 (letsThrough_consume lets _) still
          gathered
      · rw [ends] at gathered
        exact sound batch gathered

/-- What a valid consumer consumes in bounded number, where no poll is scripted, is at absolute
offsets. -/
theorem located_consumeMany (valid : site.Valid) (lets : site.cluster.LetsThrough .poll)
    {count timeout : Nat} {firstOnly : Bool} {batch : Batch}
    (consumed : ((Consumer.consumeMany count timeout firstOnly).run site).1 = .ok batch) :
    batch.Located :=
  located_gather valid lets ⟨by simp, by simp⟩ consumed

end LogConsumer
